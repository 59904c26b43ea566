import ThingLink.Handshake.Session
import ThingLink.Proofs.Handshake.Course
import ThingLink.Proofs.Handshake.Noise
import ThingLink.Proofs.Link.Oversized

/-!
# Which request a success answers

An answer does not say which request it belongs to: the frames of a stream are the answers
to the requests that were written, in order.  A step of a session that is given up leaves its
requests unanswered, and the answers that come later are taken up by the next step.  So a
success may be the answer to a request of an earlier step, and it is the answer to a request of
its own step as soon as the answers to all earlier requests have been taken up.
-/

namespace ThingLink

open ThingLink.Frame (startIn)

/-! ## What every call preserves -/

namespace Driver

variable {σ : Type} [Transport σ] {P : σ → Prop}

theorem drive_preserves
    (preserved : ∀ t now horizon request, P t → P (Transport.call t now horizon request).after)
    (m : Method) (request : m.Request) (horizon : Horizon) (budget attempt now : Nat)
    (d : Driver σ) (holds : P d.transport) :
    P (drive m request horizon budget attempt now d).driver.transport := by
  induction budget generalizing attempt now d with
  | zero => exact holds
  | succ budget inductionHypothesis =>
    have after : P (invoke d.transport m request now horizon).after := by
      rw [invoke_after]
      exact preserved d.transport now horizon (m.encode request) holds
    cases ended : (invoke d.transport m request now horizon).ended with
    | none =>
      rw [drive_pending budget attempt ended]
      exact after
    | some answered =>
      obtain ⟨time, answer⟩ := answered
      cases classified : d.policy.classify m answer with
      | success response =>
        rw [drive_success budget attempt ended classified]
        exact after
      | fatal error =>
        rw [drive_fatal budget attempt ended classified]
        exact after
      | retryable reason =>
        by_cases watched : horizon.reaches (time + d.backoff)
        · rw [drive_retryable budget attempt ended classified watched]
          exact inductionHypothesis _ _ _ after
        · rw [drive_cutOff budget attempt ended classified watched]
          exact after

end Driver

theorem Channel.Follows.snoc {c d : Channel} {calls : List (Call Channel)} {call : Call Channel}
    (follows : Channel.Follows c calls d) (next : call.before = d) :
    Channel.Follows c (calls ++ [call]) call.after := by
  induction follows with
  | nil same => exact .cons (next ▸ same) (.nil ⟨rfl, rfl, rfl⟩)
  | cons same rest inductionHypothesis => exact .cons same (inductionHypothesis next)

/-- The kept calls were made on a channel one after the other. -/
def Recorded.FollowsFrom (c : Channel) (t : Recorded Channel) : Prop :=
  Channel.Follows c t.calls t.inner

theorem Recorded.FollowsFrom.call {c : Channel} (t : Recorded Channel) (now : Nat)
    (horizon : Horizon) (request : List UInt8) (follows : t.FollowsFrom c) :
    (Transport.call t now horizon request).after.FollowsFrom c :=
  have next : Channel.Follows c (t.calls ++ [⟨t.inner, now, horizon, request⟩]) _ :=
    Channel.Follows.snoc follows rfl
  next

/-! ## What a success comes from -/

namespace Handshake.Course

variable {σ α : Type} [Transport σ] {m : Method} {h : Handshake σ α m} {calls : List (Call σ)}
  {time : Nat} {result : α} {state : DriverState}

/-- A handshake that succeeds does so with the reply to its last call. -/
theorem exists_last_of_ok (course : h.Course calls (some (time, .ok result)) state) :
    ∃ i call reply response, calls[i]? = some call ∧ calls.length = i + 1
      ∧ call.ended = some (time, reply) ∧ m.judge reply = .ok response
      ∧ m.result response = .success := by
  have positive : 0 < h.budget := by
    refine Nat.pos_of_ne_zero fun idle => ?_
    exact nomatch (course.idle idle).2.1
  obtain ⟨first, made, -⟩ := course.first positive
  obtain ⟨bound, -⟩ := List.getElem?_eq_some_iff.mp made
  have last : calls[calls.length - 1]? = some (calls[calls.length - 1]) :=
    List.getElem?_eq_getElem (by omega)
  have decided := course.decided _ _ last
  -- no other decision ends a handshake with a result
  unfold Decided at decided
  dsimp only at decided
  split at decided
  · exact nomatch decided.ended
  · next success outcome =>
    obtain ⟨⟨time, reply⟩, ended, same⟩ := Option.map_eq_some_iff.mp outcome
    obtain ⟨rfl, classified⟩ := Prod.mk.inj same
    cases decided.ended
    obtain ⟨judged, success⟩ := Policy.classify_eq_success_iff.mp classified
    exact ⟨_, _, reply, _, last, by omega, ended, judged, success⟩
  · exact nomatch decided.ended
  · split at decided
    · obtain ⟨next, made, -⟩ := decided
      obtain ⟨bound, -⟩ := List.getElem?_eq_some_iff.mp made
      omega
    · exact nomatch decided.ended

end Handshake.Course

/-! ## Sessions -/

instance {σ : Type} [Supplied σ] : Supplied (Recorded σ) where
  stock t := Supplied.stock t.inner

/-- A step of a session: credentials, and the milliseconds after which the step is given up. -/
structure Authentication where
  credentials : Credentials
  limit : Nat

def Authentication.request (a : Authentication) : List UInt8 :=
  Method.authThing.encode ⟨a.credentials⟩

/-- A driver that makes one authentication after the other. -/
structure Session (σ : Type) where
  driver : Driver σ
  now : Nat

namespace Session

section Steps

variable {σ : Type} [Supplied σ]

def progress (s : Session σ) (a : Authentication) : Progress σ Nat :=
  s.driver.authenticateWithin a.credentials s.now a.limit

def step (s : Session σ) (a : Authentication) : Session σ :=
  let progress := s.progress a
  let now := match progress.ended with
    | some (time, _) => time
    | none => s.now + a.limit
  ⟨progress.driver, now⟩

def steps (s : Session σ) (as : List Authentication) : Session σ :=
  as.foldl step s

@[simp] theorem steps_append_singleton (s : Session σ) (as : List Authentication)
    (a : Authentication) : s.steps (as ++ [a]) = (s.steps as).step a := by
  simp [steps]

def recorded (s : Session σ) : Session (Recorded σ) :=
  ⟨s.driver.recorded, s.now⟩

def unrecorded (s : Session (Recorded σ)) : Session σ :=
  ⟨s.driver.unrecorded, s.now⟩

/-- The calls that the steps of a session make. -/
def calls (s : Session σ) (as : List Authentication) : List (Call σ) :=
  (s.recorded.steps as).driver.transport.calls

theorem progress_unrecorded (s : Session (Recorded σ)) (a : Authentication) :
    (s.progress a).unrecorded = s.unrecorded.progress a :=
  s.driver.authenticate_unrecorded _ _ s.now a.credentials

theorem step_unrecorded (s : Session (Recorded σ)) (a : Authentication) :
    (s.step a).unrecorded = s.unrecorded.step a := by
  unfold step
  rw [← progress_unrecorded]
  rfl

theorem steps_unrecorded (s : Session (Recorded σ)) (as : List Authentication) :
    (s.steps as).unrecorded = s.unrecorded.steps as := by
  induction as generalizing s with
  | nil => rfl
  | cons a as inductionHypothesis =>
    refine (inductionHypothesis (s.step a)).trans ?_
    rw [step_unrecorded]
    rfl

theorem step_course (s : Session (Recorded σ)) (a : Authentication) :
    ∃ calls, (s.step a).driver.transport.calls = s.driver.transport.calls ++ calls
      ∧ Handshake.Course (m := .authThing)
          { driver := { s.driver.unrecorded with state := .initial }, request := ⟨a.credentials⟩,
            result := fun _ attempts => attempts, horizon := some (s.now + a.limit),
            budget := s.driver.attemptsWithin a.limit, attempt := 0, now := s.now }
          calls (s.progress a).ended (s.progress a).driver.state :=
  s.driver.authenticate_course _ _ s.now a.credentials

theorem mem_calls_steps (s : Session (Recorded σ)) (as : List Authentication) {call : Call σ}
    (member : call ∈ (s.steps as).driver.transport.calls) :
    call ∈ s.driver.transport.calls ∨ ∃ a ∈ as, call.request = a.request := by
  induction as generalizing s with
  | nil => exact .inl member
  | cons a as inductionHypothesis =>
    rcases inductionHypothesis (s.step a) member with made | ⟨later, further, carried⟩
    · obtain ⟨calls, kept, course⟩ := s.step_course a
      rw [kept] at made
      rcases List.mem_append.mp made with earlier | fresh
      · exact .inl earlier
      · exact .inr ⟨a, List.mem_cons_self, (course.carries call fresh).1⟩
    · exact .inr ⟨later, List.mem_cons_of_mem a further, carried⟩

theorem mem_calls (s : Session σ) (as : List Authentication) {call : Call σ}
    (member : call ∈ s.calls as) : ∃ a ∈ as, call.request = a.request := by
  rcases s.recorded.mem_calls_steps as member with none | found
  · exact nomatch none
  · exact found

end Steps

end Session

/-! ## Requests and the answers to them -/

/-- Whether the whole request was written. -/
def Call.wrote (call : Call Channel) : Bool :=
  (writeAll call.before.stream.writes call.request).failure.isNone

/-- The requests that some calls have written, in order. -/
def requests (calls : List (Call Channel)) : List (List UInt8) :=
  (calls.filter Call.wrote).map Call.request

@[simp] theorem requests_append (calls more : List (Call Channel)) :
    requests (calls ++ more) = requests calls ++ requests more := by
  simp [requests]

theorem mem_requests {calls : List (Call Channel)} {request : List UInt8}
    (member : request ∈ requests calls) : ∃ call ∈ calls, call.request = request := by
  obtain ⟨call, filtered, rfl⟩ := List.mem_map.mp member
  exact ⟨call, (List.mem_filter.mp filtered).1, rfl⟩

theorem Call.wrote_of_sent {call : Call Channel} (sent : call.sent = true) :
    call.wrote = true := by
  unfold Call.sent Channel.dispatch Channel.send at sent
  unfold Call.wrote
  dsimp only at sent
  split at sent
  · exact nomatch sent
  · next written => rw [written]; rfl

section Counting

variable {stream : ByteStream} {frames : List Frame} {limit : Nat}

theorem Call.next_le (n : Nat) (call : Call Channel) :
    call.next stream frames limit n ≤ n + (requests [call]).length := by
  unfold Call.next
  split
  · exact Nat.le_add_right n _
  · split
    · next taken => simp [requests, Call.wrote_of_sent taken.1]
    · exact Nat.le_add_right n _

/-- No more answers are taken up than requests were written. -/
theorem begun_le_requests (calls : List (Call Channel)) :
    begun stream frames limit calls ≤ (requests calls).length := by
  have from_any (n : Nat) :
      calls.foldl (Call.next stream frames limit) n ≤ n + (requests calls).length := by
    induction calls generalizing n with
    | nil => exact Nat.le_refl n
    | cons call calls inductionHypothesis =>
      have joined : requests (call :: calls) = requests [call] ++ requests calls :=
        requests_append [call] calls
      calc calls.foldl (Call.next stream frames limit) (call.next stream frames limit n)
          ≤ call.next stream frames limit n + (requests calls).length := inductionHypothesis _
        _ ≤ n + (requests [call]).length + (requests calls).length :=
            Nat.add_le_add_right (call.next_le n) _
        _ = n + (requests (call :: calls)).length := by
            rw [joined, List.length_append, Nat.add_assoc]
  exact Nat.zero_add (requests calls).length ▸ from_any 0

end Counting

/-! ## Successes -/

theorem Channel.Follows.limit_before {c d : Channel} {calls : List (Call Channel)} {k : Nat}
    {call : Call Channel} (follows : Channel.Follows c calls d) (made : calls[k]? = some call) :
    call.before.limit = c.limit := by
  induction follows generalizing k with
  | nil same => exact nomatch made
  | @cons c d first calls same rest inductionHypothesis =>
    cases k with
    | zero =>
      obtain rfl := Option.some.inj made
      exact same.limit
    | succ k =>
      refine (inductionHypothesis made).trans ?_
      rw [← same.limit]
      exact first.before.call_limit ..

/-- A call that returns a frame returns the answer that is next, and that answer belongs to one
of the requests written so far. -/
theorem Channel.Follows.returned {stream : ByteStream} {settings : ConnectionSettings}
    {answers : List Frame} {calls : List (Call Channel)} {d : Channel} {k : Nat}
    {call : Call Channel} {bytes : List UInt8}
    (follows : Channel.Follows (.over stream settings) calls d)
    (incoming : arrivedBytes stream.arrivals <+: answers.flatMap Frame.bytes)
    (made : calls[k]? = some call) (replied : call.reply? = some (.ok bytes)) :
    let n := begun stream answers settings.maxFrameSize (calls.take k)
    ∃ answer, answers[n]? = some answer ∧ answer.size ≤ settings.maxFrameSize
      ∧ answer.bytes = bytes ∧ n < (requests (calls.take (k + 1))).length := by
  intro n
  have minimum : headerSize ≤ settings.maxFrameSize := by
    have := Call.headerSize_le_limit replied
    rwa [follows.limit_before made] at this
  have turn := follows.turn minimum (.start incoming) made
  obtain ⟨answer, next, sent, whole, verdict⟩ := turn.exists_frame replied (not_unanswered_ok bytes)
  obtain ⟨fits, same⟩ := Frame.verdict_eq_ok_iff.mp verdict.symm
  refine ⟨answer, next, fits, same, ?_⟩
  have written : requests (calls.take (k + 1)) = requests (calls.take k) ++ [call.request] := by
    rw [List.take_add_one, made, requests_append]
    simp [requests, Call.wrote_of_sent sent]
  rw [written, List.length_append]
  exact Nat.lt_succ_of_le (begun_le_requests _)

namespace Session

/-- A driver over a new channel. -/
def opened (stream : ByteStream) (settings : ConnectionSettings) (backoff : Nat) (policy : Policy)
    (now : Nat) : Session Channel :=
  ⟨{ transport := .over stream settings, backoff, policy }, now⟩

theorem follows_calls {c : Channel} (s : Session (Recorded Channel)) (as : List Authentication)
    (follows : s.driver.transport.FollowsFrom c) :
    (s.steps as).driver.transport.FollowsFrom c := by
  induction as generalizing s with
  | nil => exact follows
  | cons a as inductionHypothesis =>
    exact inductionHypothesis (s.step a)
      (Driver.drive_preserves (fun t => Recorded.FollowsFrom.call t) .authThing _ _ _ _ _ _ follows)

/-- A success is an answer to a request that was written in this step or an earlier one, and it
had not been taken up before the step.  It answers a request of the step itself unless an
earlier request is still unanswered. -/
theorem success_answers_request (stream : ByteStream) (settings : ConnectionSettings)
    (backoff : Nat) (policy : Policy) (now : Nat) (earlier : List Authentication)
    (step : Authentication) (answers : List Frame)
    (incoming : arrivedBytes stream.arrivals <+: answers.flatMap Frame.bytes)
    {time attempts : Nat}
    (ok : (((opened stream settings backoff policy now).steps earlier).progress step).ended
      = some (time, .ok attempts)) :
    let session := opened stream settings backoff policy now
    let before := session.calls earlier
    let after := session.calls (earlier ++ [step])
    ∃ n answer request,
      answers[n]? = some answer
        ∧ Method.authThing.SucceedsWith settings.maxFrameSize answer ⟨.success⟩
        ∧ (requests after)[n]? = some request
        ∧ (∃ a ∈ earlier ++ [step], request = a.request)
        ∧ begun stream answers settings.maxFrameSize before ≤ n
        ∧ ((requests before).length ≤ n → request = step.request) := by
  intro session before after
  let recorded := session.recorded.steps earlier
  obtain ⟨calls, kept, course⟩ := recorded.step_course step
  have ended : (recorded.progress step).ended = some (time, .ok attempts) := by
    refine Eq.trans ?_ ok
    have same := (recorded.progress_unrecorded step).trans
      (congrArg (progress · step) (session.recorded.steps_unrecorded earlier))
    exact congrArg Progress.ended same
  rw [ended] at course
  obtain ⟨i, call, reply, response, last, count, answered, judged, success⟩ :=
    course.exists_last_of_ok
  obtain ⟨bytes, rfl, decoded⟩ := Method.judge_eq_ok_iff.mp judged
  have all : after = before ++ calls := by
    simp only [after, Session.calls, steps_append_singleton]
    exact kept
  have made : after[before.length + i]? = some call := by
    rw [all, List.getElem?_append_right (Nat.le_add_right _ i), Nat.add_sub_cancel_left]
    exact last
  have follows : Channel.Follows (.over stream settings) after _ :=
    session.recorded.follows_calls (earlier ++ [step]) (.nil ⟨rfl, rfl, rfl⟩)
  obtain ⟨answer, next, fits, same, few⟩ := follows.returned incoming made
    (congrArg (Option.map Prod.snd) answered)
  -- the call that brought the success is the last one of the session so far
  have whole : after.take (before.length + i + 1) = after := by
    refine List.take_of_length_le ?_
    rw [all, List.length_append, count]
    omega
  rw [whole] at few
  obtain ⟨request, asked⟩ : ∃ request, (requests after)[_]? = some request :=
    ⟨_, List.getElem?_eq_getElem few⟩
  obtain ⟨response⟩ := response
  obtain rfl : response = .success := success
  refine ⟨_, answer, request, next, ⟨fits, same ▸ decoded, rfl⟩, asked, ?_, ?_, fun others => ?_⟩
  · obtain ⟨call, kept, rfl⟩ := mem_requests (List.mem_of_getElem? asked)
    exact session.mem_calls _ kept
  · -- the calls of the earlier steps come first
    have front : after.take before.length = before := by rw [all, List.take_left]
    calc begun stream answers settings.maxFrameSize before
        = begun stream answers settings.maxFrameSize (after.take before.length) := by rw [front]
      _ ≤ begun stream answers settings.maxFrameSize (after.take (before.length + i)) :=
          begun_mono (Nat.le_add_right before.length i)
  · rw [all, requests_append, ← all, List.getElem?_append_right others] at asked
    obtain ⟨call, fresh, rfl⟩ := mem_requests (List.mem_of_getElem? asked)
    exact (course.carries call fresh).1

/-- Answers to two requests, the second one ten milliseconds after the first. -/
def promptStream : ByteStream where
  arrivals := [⟨5, .ok [0x15, 1, 0]⟩, ⟨15, .ok [0x15, 1, 0]⟩]

def secondThing : Credentials :=
  ⟨"00000000-0000-4000-8000-000000000002", "second-token-second-token-second-token-2",
    by decide, by decide⟩

/-- Two steps that are answered one after the other: the second success is the answer to a
request of the second step. -/
theorem success_answers_request_promptStream :
    let session := opened promptStream {} defaultBackoff .strict 0
    let first : Authentication := ⟨Driver.heldCredentials, 8⟩
    let second : Authentication := ⟨secondThing, 20⟩
    ((session.steps [first]).progress second).ended = some (15, .ok 1)
      ∧ ∃ n, 1 ≤ n
        ∧ (requests (session.calls [first, second]))[n]?
          = some (Method.authThing.encode ⟨secondThing⟩) := by
  intro session first second
  have ok : ((session.steps [first]).progress second).ended = some (15, .ok 1) := rfl
  refine ⟨ok, ?_⟩
  obtain ⟨n, answer, request, -, -, asked, -, taken, own⟩ := success_answers_request promptStream
    {} defaultBackoff .strict 0 [first] second
    [⟨0x15, [0], by decide⟩, ⟨0x15, [0], by decide⟩] (List.prefix_refl _) ok
  obtain rfl : request = second.request := own taken
  exact ⟨n, taken, asked⟩

/-- A peer that answers each request with one whole frame, in order, and with no byte of it
before the request was written. -/
structure AnswersEach (stream : ByteStream) (answers : List Frame) (calls : List (Call Channel)) :
    Prop where
  each : answers.length = (requests calls).length
  inOrder : arrivedBytes stream.arrivals = answers.flatMap Frame.bytes
  notBefore : ∀ i start, ((calls.filter Call.wrote).map Call.start)[i]? = some start →
    (arrivedBytes (stream.arrivals.takeWhile (·.due < start))).length ≤ startIn answers i

/-- An acceptance of the first request, and a refusal of the second one. -/
def lateStream : ByteStream where
  arrivals := [⟨200, .ok [0x15, 1, 0]⟩, ⟨300, .ok [0x15, 1, 0xFD]⟩]

/-- With a peer that answers each request, a step can succeed although no request that carries
its credentials was accepted: its success is the late answer to a request of the step before. -/
theorem late_success_credited :
    let session := opened lateStream {} defaultBackoff .strict 0
    let first : Authentication := ⟨Driver.heldCredentials, 100⟩
    let second : Authentication := ⟨secondThing, 1000⟩
    let calls := session.calls [first, second]
    let answers : List Frame := [⟨0x15, [0], by decide⟩, ⟨0x15, [0xFD], by decide⟩]
    AnswersEach lateStream answers calls
      ∧ ((session.steps [first]).progress second).ended = some (200, .ok 1)
      ∧ ¬∃ (n : Nat) (answer : Frame) (response : AuthResponse),
          (requests calls)[n]? = some second.request ∧ answers[n]? = some answer
            ∧ Method.authThing.SucceedsWith defaultMaxFrame answer response := by
  intro session first second calls answers
  have written : requests calls = [first.request, second.request] := by decide +kernel
  have starts : (calls.filter Call.wrote).map Call.start = [0, 100] := by decide +kernel
  refine ⟨⟨by rw [written]; rfl, rfl, ?_⟩, rfl, ?_⟩
  · intro i start made
    rw [starts] at made
    cases i with
    | zero =>
      obtain rfl := Option.some.inj made
      decide
    | succ i =>
      cases i with
      | zero =>
        obtain rfl := Option.some.inj made
        decide
      | succ i => exact nomatch made
  · rintro ⟨n, answer, response, asked, answered, succeeds⟩
    rw [written] at asked
    cases n with
    | zero => exact absurd (Option.some.inj asked) (by decide)
    | succ n =>
      cases n with
      | zero =>
        obtain rfl := Option.some.inj answered
        have refused : Message.decode [0x15, 1, 0xFD] = .ok (.authResponse ⟨.permission⟩) := rfl
        have carries := refused.symm.trans succeeds.carries
        cases carries
        exact nomatch succeeds.success
      | succ n => exact nomatch asked

end Session

end ThingLink
