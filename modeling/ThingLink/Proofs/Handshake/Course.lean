import ThingLink.Handshake.Driver
import ThingLink.Proofs.Link.Calls

/-!
# The course of a handshake

A handshake makes its calls one after the other.  Every call carries the same request, and
what the policy makes of its reply decides what follows: the handshake is over, or the next
call starts after the backoff.  The calls are those that a recording transport keeps, and to
keep them changes nothing.
-/

namespace ThingLink

/-! ## Recorded handshakes -/

namespace Driver

variable {σ τ : Type}

def withTransport (d : Driver σ) (transport : τ) : Driver τ :=
  ⟨transport, d.backoff, d.policy, d.state⟩

/-- The driver with a transport that keeps the calls from now on. -/
def recorded (d : Driver σ) : Driver (Recorded σ) :=
  d.withTransport ⟨d.transport, []⟩

def unrecorded (d : Driver (Recorded σ)) : Driver σ :=
  d.withTransport d.transport.inner

end Driver

namespace Progress

variable {σ α β : Type}

def unrecorded (p : Progress (Recorded σ) α) : Progress σ α :=
  ⟨p.ended, p.journal, p.driver.unrecorded⟩

@[simp] theorem unrecorded_after (earlier : Journal) (p : Progress (Recorded σ) α) :
    (p.after earlier).unrecorded = p.unrecorded.after earlier :=
  rfl

@[simp] theorem unrecorded_map (f : α → β) (p : Progress (Recorded σ) α) :
    (p.map f).unrecorded = p.unrecorded.map f :=
  rfl

end Progress

section Recording

variable {σ : Type} [Transport σ]

theorem invoke_recorded (t : Recorded σ) (m : Method) (request : m.Request) (now : Nat)
    (horizon : Horizon) :
    let invocation := invoke t.inner m request now horizon
    invoke t m request now horizon
      = ⟨invocation.ended, invocation.journal,
        ⟨invocation.after, t.calls ++ [⟨t.inner, now, horizon, m.encode request⟩]⟩⟩ := by
  simp only [invoke, Transport.call, Recorded.call, Call.ended, Call.exchange, Call.after]
  cases (Transport.call t.inner now horizon (m.encode request)).ended <;> rfl

theorem invoke_ended (t : σ) (m : Method) (request : m.Request) (now : Nat) (horizon : Horizon) :
    (invoke t m request now horizon).ended
      = (Call.mk t now horizon (m.encode request)).ended.map
          fun (time, reply) => (time, m.judge reply) := by
  simp only [invoke, Call.ended, Call.exchange]
  cases (Transport.call t now horizon (m.encode request)).ended <;> rfl

theorem invoke_after (t : σ) (m : Method) (request : m.Request) (now : Nat) (horizon : Horizon) :
    (invoke t m request now horizon).after
      = (Call.mk t now horizon (m.encode request)).after := by
  simp only [invoke, Call.after, Call.exchange]
  cases (Transport.call t now horizon (m.encode request)).ended <;> rfl

theorem invoke_journal (t : σ) (m : Method) (request : m.Request) (now : Nat)
    (horizon : Horizon) :
    let exchange := Transport.call t now horizon (m.encode request)
    (invoke t m request now horizon).journal = exchange.journal
        ++ (exchange.ended.toList.flatMap fun (time, reply) =>
          logAt time (replyLines m reply)) := by
  simp only [invoke]
  cases (Transport.call t now horizon (m.encode request)).ended with
  | none => simp
  | some replied => simp [logAt]

namespace Driver

theorem drive_unrecorded (m : Method) (request : m.Request) (horizon : Horizon)
    (budget attempt now : Nat) (d : Driver (Recorded σ)) :
    (drive m request horizon budget attempt now d).unrecorded
      = drive m request horizon budget attempt now d.unrecorded := by
  induction budget generalizing attempt now d with
  | zero => rfl
  | succ budget inductionHypothesis =>
    have recorded := invoke_recorded d.transport m request now horizon
    have same : (invoke d.transport m request now horizon).ended
        = (invoke d.unrecorded.transport m request now horizon).ended :=
      congrArg Invocation.ended recorded
    cases ended : (invoke d.unrecorded.transport m request now horizon).ended with
    | none =>
      rw [drive_pending budget attempt (same.trans ended), drive_pending budget attempt ended,
        recorded]
      rfl
    | some answered =>
      obtain ⟨time, answer⟩ := answered
      cases classified : d.policy.classify m answer with
      | success response =>
        rw [drive_success budget attempt (same.trans ended) classified,
          drive_success budget attempt ended classified, recorded]
        rfl
      | fatal error =>
        rw [drive_fatal budget attempt (same.trans ended) classified,
          drive_fatal budget attempt ended classified, recorded]
        rfl
      | retryable reason =>
        by_cases watched : horizon.reaches (time + d.backoff)
        · rw [drive_retryable budget attempt (same.trans ended) classified watched,
            drive_retryable budget attempt ended classified watched, recorded]
          exact congrArg (Progress.after _) (inductionHypothesis ..)
        · rw [drive_cutOff budget attempt (same.trans ended) classified watched,
            drive_cutOff budget attempt ended classified watched, recorded]
          rfl

end Driver

end Recording

/-! ## What decides the course -/

/-- What a policy makes of the reply to a call, and its instant. -/
def Call.outcome? {σ : Type} [Transport σ] (policy : Policy) (m : Method) (call : Call σ) :
    Option (Nat × Outcome m.Response) :=
  call.ended.map fun (time, reply) => (time, policy.classify m (m.judge reply))

theorem Call.outcome?_of_ended {σ : Type} [Transport σ] {policy : Policy} {m : Method}
    {call : Call σ} {time : Nat} {reply : Reply} {outcome : Outcome m.Response}
    (ended : call.ended = some (time, reply))
    (classified : policy.classify m (m.judge reply) = outcome) :
    call.outcome? policy m = some (time, outcome) := by
  rw [outcome?, ended, ← classified]
  rfl

/-- A handshake that is to be made: with which driver, from when on, how far watched, after
how many attempts and with how many more. -/
structure Handshake (σ α : Type) (m : Method) where
  driver : Driver σ
  request : m.Request
  /-- What is made of a response and the number of its attempt. -/
  result : m.Response → Nat → α
  horizon : Horizon
  budget : Nat
  attempt : Nat
  now : Nat

namespace Handshake

variable {σ α : Type} [Transport σ] {m : Method} (h : Handshake σ α m) (calls : List (Call σ))
  (ended : Option (Nat × Except RegistrationError α)) (state : DriverState)

/-- That a handshake is over with the call of this number, what it comes to, and the state
that it leaves. -/
structure Over (i : Nat) (comes : Option (Nat × Except RegistrationError α))
    (leaves : DriverState) : Prop where
  last : calls.length = i + 1
  ended : ended = comes
  state : state = leaves

/-- What a call decides: the end of the handshake, or when the next call starts. -/
def Decided (i : Nat) (call : Call σ) : Prop :=
  let attempts := min (h.attempt + (i + 1)) maxAttempts
  let Over := Over calls ended state i
  match call.outcome? h.driver.policy m with
  | none => Over none (.awaiting attempts)
  | some (time, .success response) =>
      Over (some (time, .ok (h.result response attempts))) (.done attempts)
  | some (time, .fatal error) => Over (some (time, .error error)) (.failed attempts)
  | some (time, .retryable _) =>
      let wake := time + h.driver.backoff
      if i + 1 < h.budget ∧ h.horizon.reaches wake then
        ∃ next, calls[i + 1]? = some next ∧ next.start = wake ∧ next.before = call.after
      else Over none (.retrying attempts)

/-- The calls of a handshake, what it comes to, and the state that it leaves. -/
structure Course : Prop where
  carries : ∀ call ∈ calls, call.request = m.encode h.request ∧ call.horizon = h.horizon
  idle : h.budget = 0 → calls = [] ∧ ended = none ∧ state = h.driver.state
  first : 0 < h.budget →
    ∃ call, calls[0]? = some call ∧ call.start = h.now ∧ call.before = h.driver.transport
  decided : ∀ i call, calls[i]? = some call → h.Decided calls ended state i call

variable {h calls ended state}

/-- The first call of a handshake. -/
def call (h : Handshake σ α m) : Call σ :=
  ⟨h.driver.transport, h.now, h.horizon, m.encode h.request⟩

/-- What is left of a handshake when its first call is to be repeated. -/
def again (h : Handshake σ α m) (wake : Nat) : Handshake σ α m :=
  { h with
    driver := { h.driver with
      transport := h.call.after
      state := .retrying (nextAttempt h.attempt) }
    budget := h.budget - 1
    attempt := nextAttempt h.attempt
    now := wake }

theorem decided_again {i wake : Nat} {call : Call σ} (positive : 0 < h.budget)
    (decided : (h.again wake).Decided calls ended state i call) :
    h.Decided (h.call :: calls) ended state (i + 1) call := by
  unfold Decided at decided ⊢
  simp only [again, min_nextAttempt_add] at decided
  dsimp only
  have shifted {comes leaves} (closes : Over calls ended state i comes leaves) :
      Over (h.call :: calls) ended state (i + 1) comes leaves :=
    ⟨congrArg Nat.succ closes.last, closes.ended, closes.state⟩
  split at decided
  · exact shifted decided
  · exact shifted decided
  · exact shifted decided
  · split at decided
    · next goesOn =>
      rw [if_pos ⟨by omega, goesOn.2⟩]
      exact decided
    · next stops =>
      rw [if_neg fun goesOn => stops ⟨by omega, goesOn.2⟩]
      exact shifted decided

namespace Course

theorem without_budget (idle : h.budget = 0) : h.Course [] none h.driver.state where
  carries := nofun
  idle _ := ⟨rfl, rfl, rfl⟩
  first positive := absurd idle (Nat.ne_of_gt positive)
  decided := nofun

/-- A handshake that is over with its first call. -/
theorem single (positive : 0 < h.budget) (decided : h.Decided [h.call] ended state 0 h.call) :
    h.Course [h.call] ended state where
  carries call member := by
    rw [List.mem_singleton.mp member]
    exact ⟨rfl, rfl⟩
  idle idle := absurd idle (Nat.ne_of_gt positive)
  first _ := ⟨h.call, rfl, rfl, rfl⟩
  decided i call made := by
    cases i with
    | zero =>
      obtain rfl := Option.some.inj made
      exact decided
    | succ i => exact nomatch made

theorem waiting (positive : 0 < h.budget)
    (outcome : h.call.outcome? h.driver.policy m = none) :
    h.Course [h.call] none (.awaiting (nextAttempt h.attempt)) := by
  refine .single positive ?_
  simp only [Decided, outcome]
  exact ⟨rfl, rfl, rfl⟩

theorem success {time : Nat} {response : m.Response} (positive : 0 < h.budget)
    (outcome : h.call.outcome? h.driver.policy m = some (time, .success response)) :
    h.Course [h.call] (some (time, .ok (h.result response (nextAttempt h.attempt))))
      (.done (nextAttempt h.attempt)) := by
  refine .single positive ?_
  simp only [Decided, outcome]
  exact ⟨rfl, rfl, rfl⟩

theorem fatal {time : Nat} {error : RegistrationError} (positive : 0 < h.budget)
    (outcome : h.call.outcome? h.driver.policy m = some (time, .fatal error)) :
    h.Course [h.call] (some (time, .error error)) (.failed (nextAttempt h.attempt)) := by
  refine .single positive ?_
  simp only [Decided, outcome]
  exact ⟨rfl, rfl, rfl⟩

theorem cutOff {time : Nat} {reason : RetryReason} (positive : 0 < h.budget)
    (outcome : h.call.outcome? h.driver.policy m = some (time, .retryable reason))
    (unwatched : ¬h.horizon.reaches (time + h.driver.backoff)) :
    h.Course [h.call] none (.retrying (nextAttempt h.attempt)) := by
  refine .single positive ?_
  simp only [Decided, outcome]
  rw [if_neg fun goesOn => unwatched goesOn.2]
  exact ⟨rfl, rfl, rfl⟩

/-- A handshake whose first call is repeated, for as long as there are calls left. -/
theorem cons {time : Nat} {reason : RetryReason} (positive : 0 < h.budget)
    (outcome : h.call.outcome? h.driver.policy m = some (time, .retryable reason))
    (watched : h.horizon.reaches (time + h.driver.backoff))
    (rest : (h.again (time + h.driver.backoff)).Course calls ended state) :
    h.Course (h.call :: calls) ended state where
  carries call member := by
    cases member with
    | head => exact ⟨rfl, rfl⟩
    | tail _ member => exact rest.carries call member
  idle idle := absurd idle (Nat.ne_of_gt positive)
  first _ := ⟨h.call, rfl, rfl, rfl⟩
  decided i call made := by
    cases i with
    | succ i => exact decided_again positive (rest.decided i call made)
    | zero =>
      obtain rfl := Option.some.inj made
      simp only [Decided, outcome, watched, and_true]
      split
      · next more => exact rest.first (Nat.sub_pos_of_lt more)
      · next spent =>
        obtain ⟨rfl, rfl, rfl⟩ := rest.idle (Nat.sub_eq_zero_of_le (Nat.le_of_not_lt spent))
        exact ⟨rfl, rfl, rfl⟩

/-- The course of a handshake whose result is made into something else. -/
theorem map {β : Type} (f : α → β) (course : h.Course calls ended state) :
    Course { h with result := fun response attempts => f (h.result response attempts) } calls
      (ended.map fun (time, result) => (time, result.map f)) state where
  carries := course.carries
  idle idle := by
    obtain ⟨none, rfl, same⟩ := course.idle idle
    exact ⟨none, rfl, same⟩
  first := course.first
  decided i call made := by
    have decided := course.decided i call made
    unfold Decided at decided ⊢
    dsimp only at decided ⊢
    have mapped {comes leaves} (closes : Over calls ended state i comes leaves) :
        Over calls (ended.map fun (time, result) => (time, result.map f)) state i
          (comes.map fun (time, result) => (time, result.map f)) leaves :=
      ⟨closes.last, congrArg _ closes.ended, closes.state⟩
    split at decided
    · exact mapped decided
    · exact mapped decided
    · exact mapped decided
    · split at decided
      · next goesOn =>
        rw [if_pos goesOn]
        exact decided
      · next stops =>
        rw [if_neg stops]
        exact mapped decided

/-- A handshake comes to the success of its last call. -/
theorem ended_of_success {call : Call σ} {time : Nat} {response : m.Response}
    (course : h.Course calls ended state) (last : calls.getLast? = some call)
    (success : call.outcome? h.driver.policy m = some (time, .success response)) :
    ∃ attempts, ended = some (time, .ok (h.result response attempts)) := by
  rw [List.getLast?_eq_getElem?] at last
  have decided := course.decided _ _ last
  simp only [Decided, success] at decided
  exact ⟨_, decided.ended⟩

end Course

end Handshake

namespace Driver

open Text (bytes)

variable {σ : Type} [Transport σ]

theorem drive_course (m : Method) (request : m.Request) (horizon : Horizon)
    (budget attempt now : Nat) (d : Driver (Recorded σ)) :
    let progress := drive m request horizon budget attempt now d
    ∃ calls, progress.driver.transport.calls = d.transport.calls ++ calls
      ∧ Handshake.Course ⟨d.unrecorded, request, Prod.mk, horizon, budget, attempt, now⟩ calls
          progress.ended progress.driver.state := by
  -- the call that is made now is the first one of the handshake that remains, and only a call
  -- that is repeated leaves another handshake, one with a call less
  induction budget generalizing attempt now d with
  | zero => exact ⟨[], (List.append_nil _).symm, .without_budget rfl⟩
  | succ budget inductionHypothesis =>
    let call : Call σ := ⟨d.transport.inner, now, horizon, m.encode request⟩
    have recorded := invoke_recorded d.transport m request now horizon
    have answered : (invoke d.transport m request now horizon).ended
        = call.ended.map fun (time, reply) => (time, m.judge reply) :=
      (congrArg Invocation.ended recorded).trans (invoke_ended ..)
    have positive : 0 < budget + 1 := Nat.succ_pos budget
    cases ended : call.ended with
    | none =>
      rw [ended] at answered
      rw [drive_pending budget attempt answered, recorded]
      exact ⟨[call], rfl, .waiting positive (Option.map_eq_none_iff.mpr ended)⟩
    | some replied =>
      obtain ⟨time, reply⟩ := replied
      rw [ended] at answered
      cases classified : d.policy.classify m (m.judge reply) with
      | success response =>
        rw [drive_success budget attempt answered classified, recorded]
        exact ⟨[call], rfl, .success positive (call.outcome?_of_ended ended classified)⟩
      | fatal error =>
        rw [drive_fatal budget attempt answered classified, recorded]
        exact ⟨[call], rfl, .fatal positive (call.outcome?_of_ended ended classified)⟩
      | retryable reason =>
        have outcome := call.outcome?_of_ended ended classified
        by_cases watched : horizon.reaches (time + d.backoff)
        · rw [drive_retryable budget attempt answered classified watched, recorded, invoke_after]
          obtain ⟨calls, kept, course⟩ := inductionHypothesis (nextAttempt attempt)
            (time + d.backoff) _
          exact ⟨call :: calls, kept.trans (List.append_assoc _ [_] _),
            .cons positive outcome watched course⟩
        · rw [drive_cutOff budget attempt answered classified watched, recorded]
          exact ⟨[call], rfl, .cutOff positive outcome watched⟩

/-- A name that is too long ends a registration at once. -/
theorem register_tooLong {deviceId : UInt64} {deviceName : String} {horizon : Horizon}
    {budget now : Nat} (d : Driver σ) (tooLong : maxNameSize < (bytes deviceName).length) :
    d.register deviceId deviceName horizon budget now
      = ⟨some (now, .error (.invalidRequest
          (.nameTooLong (bytes deviceName).length maxNameSize))), [],
        { d with state := .initial }⟩ := by
  have failed : RegisterRequest.make deviceId deviceName
      = .error (.nameTooLong (bytes deviceName).length maxNameSize) :=
    dif_neg (Nat.not_le.mpr tooLong)
  unfold register
  rw [failed]

section Recorded

variable (d : Driver (Recorded σ)) (horizon : Horizon) (budget now : Nat)

theorem register_course (deviceId : UInt64) (deviceName : String)
    (named : (bytes deviceName).length ≤ maxNameSize) :
    let progress := d.register deviceId deviceName horizon budget now
    ∃ calls, progress.driver.transport.calls = d.transport.calls ++ calls
      ∧ Handshake.Course (m := .registerThing)
          { driver := { d.unrecorded with state := .initial },
            request := ⟨deviceId, deviceName, named⟩,
            result := fun response attempts => ⟨attempts, response.credentials⟩,
            horizon, budget, attempt := 0, now }
          calls progress.ended progress.driver.state := by
  have made : RegisterRequest.make deviceId deviceName = .ok ⟨deviceId, deviceName, named⟩ :=
    dif_pos named
  obtain ⟨calls, kept, course⟩ := drive_course .registerThing ⟨deviceId, deviceName, named⟩ horizon
    budget 0 now { d with state := .initial }
  simp only [register]
  rw [made]
  have registration := course.map fun result => Registration.mk result.2 result.1.credentials
  exact ⟨calls, kept, registration⟩

theorem authenticate_course (credentials : Credentials) :
    let progress := d.authenticate credentials horizon budget now
    ∃ calls, progress.driver.transport.calls = d.transport.calls ++ calls
      ∧ Handshake.Course (m := .authThing)
          { driver := { d.unrecorded with state := .initial }, request := ⟨credentials⟩,
            result := fun _ attempts => attempts, horizon, budget, attempt := 0, now }
          calls progress.ended progress.driver.state := by
  obtain ⟨calls, kept, course⟩ := drive_course .authThing ⟨credentials⟩ horizon budget 0 now
    { d with state := .initial }
  exact ⟨calls, kept, course.map Prod.snd⟩

theorem register_unrecorded (deviceId : UInt64) (deviceName : String) :
    (d.register deviceId deviceName horizon budget now).unrecorded
      = d.unrecorded.register deviceId deviceName horizon budget now := by
  unfold register
  cases RegisterRequest.make deviceId deviceName with
  | error e => rfl
  | ok request =>
    have driven := drive_unrecorded .registerThing request horizon budget 0 now
      { d with state := .initial }
    rw [Progress.unrecorded_map, Progress.unrecorded_after, driven]
    rfl

theorem authenticate_unrecorded (credentials : Credentials) :
    (d.authenticate credentials horizon budget now).unrecorded
      = d.unrecorded.authenticate credentials horizon budget now := by
  have driven := drive_unrecorded .authThing ⟨credentials⟩ horizon budget 0 now
    { d with state := .initial }
  unfold authenticate
  rw [Progress.unrecorded_map, Progress.unrecorded_after, driven]
  rfl

end Recorded

/-- For every transport, policy and backoff, a handshake calls until a call decides it: each
call carries the request, a call that is to be repeated is followed by the next one a backoff
after its end, and the first success or final failure is what the handshake comes to.  A name
that is too long ends a registration without a call. -/
theorem retries_until_decided (d : Driver σ) (horizon : Horizon) (budget now : Nat)
    (deviceId : UInt64) (deviceName : String) (credentials : Credentials) :
    let fresh : Driver σ := { d with state := .initial }
    let registering := d.recorded.register deviceId deviceName horizon budget now
    let authenticating := d.recorded.authenticate credentials horizon budget now
    (∀ named : (bytes deviceName).length ≤ maxNameSize,
        Handshake.Course (m := .registerThing)
          { driver := fresh, request := ⟨deviceId, deviceName, named⟩,
            result := fun response attempts => ⟨attempts, response.credentials⟩,
            horizon, budget, attempt := 0, now }
          registering.driver.transport.calls registering.ended registering.driver.state)
      ∧ (maxNameSize < (bytes deviceName).length →
          registering.ended
              = some (now, .error (.invalidRequest
                  (.nameTooLong (bytes deviceName).length maxNameSize)))
            ∧ registering.driver.transport.calls = []
            ∧ registering.driver.state = .initial)
      ∧ Handshake.Course (m := .authThing)
          { driver := fresh, request := ⟨credentials⟩, result := fun _ attempts => attempts,
            horizon, budget, attempt := 0, now }
          authenticating.driver.transport.calls authenticating.ended authenticating.driver.state
      -- to keep the calls changes nothing else
      ∧ registering.unrecorded = d.register deviceId deviceName horizon budget now
      ∧ authenticating.unrecorded = d.authenticate credentials horizon budget now := by
  intro fresh registering authenticating
  refine ⟨fun named => ?_, fun tooLong => ?_, ?_,
    d.recorded.register_unrecorded horizon budget now deviceId deviceName,
    d.recorded.authenticate_unrecorded horizon budget now credentials⟩
  · obtain ⟨calls, kept, course⟩ :=
      d.recorded.register_course horizon budget now deviceId deviceName named
    rw [show registering.driver.transport.calls = calls from kept]
    exact course
  · rw [show registering = _ from d.recorded.register_tooLong tooLong]
    exact ⟨rfl, rfl, rfl⟩
  · obtain ⟨calls, kept, course⟩ :=
      d.recorded.authenticate_course horizon budget now credentials
    rw [show authenticating.driver.transport.calls = calls from kept]
    exact course

/-- A driver whose gateway lets the first request time out, answers the second one with a
failure, and accepts the third one. -/
def stammering : Driver ReplyScript :=
  { transport := ⟨[⟨5, .error .timeout⟩, ⟨3, .ok [0x11, 1, 0xFF]⟩, ⟨1, .ok [0x11, 1, 0]⟩]⟩
    backoff := 10 }

def heldCredentials : Credentials :=
  ⟨"c1a0f2b4-5d6e-4f70-8a9b-0c1d2e3f4a5b", "0123456789abcdef0123456789abcdef01234567",
    by decide, by decide⟩

theorem retries_until_decided_stammering :
    let progress := stammering.recorded.register 7 "lamp" none 5 0
    (bytes "lamp").length ≤ maxNameSize
      ∧ progress.driver.transport.calls.map Call.start = [0, 15, 28]
      ∧ progress.ended = some (29, .ok ⟨3, none⟩)
      ∧ progress.driver.state = .done 3 := by
  intro progress
  have named : (bytes "lamp").length ≤ maxNameSize := by decide
  obtain ⟨registers, -⟩ := retries_until_decided stammering none 5 0 7 "lamp" heldCredentials
  have finished : Handshake.Over progress.driver.transport.calls progress.ended
      progress.driver.state 2 (some (29, .ok ⟨3, none⟩)) (.done 3) :=
    (registers named).decided 2 _ rfl
  exact ⟨named, rfl, finished.ended, finished.state⟩

end Driver

end ThingLink
