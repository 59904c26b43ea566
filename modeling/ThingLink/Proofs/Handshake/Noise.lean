import ThingLink.Handshake.Driver
import ThingLink.Proofs.Handshake.Judgement
import ThingLink.Proofs.Link.Backlog

/-!
# Registration under noise

A driver that never gives up uses up one waiting frame in each attempt, whatever the
frame is: unknown, malformed, too large, of another kind, or a failure.  It ends with
the first frame that carries a successful response, and leaves the frames behind it
to later calls.
-/

namespace ThingLink

open Channel (Backlog)

/-! ## What a frame means to a method -/

/-- A frame that a method succeeds with: one within the limit that carries a response
of the method whose verdict is success. -/
structure Method.SucceedsWith (m : Method) (limit : Nat) (f : Frame) (response : m.Response) :
    Prop where
  fits : f.size ≤ limit
  carries : Message.decode f.bytes = .ok (m.responseMessage response)
  success : m.result response = .success

theorem Method.succeedsWith_iff {m : Method} {limit : Nat} {f : Frame} {response : m.Response} :
    m.SucceedsWith limit f response
      ↔ m.judge (f.verdict limit) = .ok response ∧ m.result response = .success := by
  rw [judge_eq_ok_iff]
  constructor
  · rintro ⟨fits, carries, success⟩
    exact ⟨⟨f.bytes, Frame.verdict_eq_ok_iff.mpr ⟨fits, rfl⟩, carries⟩, success⟩
  · rintro ⟨⟨bs, verdict, carries⟩, success⟩
    obtain ⟨fits, rfl⟩ := Frame.verdict_eq_ok_iff.mp verdict
    exact ⟨fits, carries, success⟩

namespace Policy

theorem classify_lenient {m : Method} {answer : Except CallError m.Response}
    (failure : ∀ response, answer = .ok response → m.result response ≠ .success) :
    ∃ reason, lenient.classify m answer = .retryable reason := by
  cases answer with
  | error e => exact ⟨_, classify_eq_iff.mpr (.passing (.inr rfl))⟩
  | ok response =>
    exact ⟨_, classify_eq_iff.mpr (.refused (failure response rfl) List.not_mem_nil)⟩

end Policy

/-! ## Attempts on a backlog -/

@[simp] theorem written_logAt (time : Nat) (lines : List LogLine) :
    (logAt time lines).written = [] := by
  simp [logAt, Journal.written, List.flatMap_map]

section Backlogs

variable {limit now : Nat} {m : Method} {f : Frame} {later : List Frame}

theorem invoke_backlog {c : Channel} {horizon : Horizon}
    (backlog : Backlog limit now (f :: later) c) (watched : horizon.reaches now)
    (request : m.Request) :
    let invocation := invoke c m request now horizon
    invocation.ended = some (now, m.judge (f.verdict limit))
      ∧ invocation.journal.written = m.encode request
      ∧ Backlog limit now later invocation.after := by
  obtain ⟨ended, written, behind⟩ := backlog.call watched (m.encode request)
  simp only [invoke, Transport.call, ended, Journal.written_append, written, true_and]
  refine ⟨?_, behind⟩
  -- what the invoker logs about the reply is not written to the stream
  exact (congrArg (m.encode request ++ ·) (written_logAt now _)).trans (List.append_nil _)

theorem drive_succeeds {response : m.Response} {d : Driver Channel}
    (backlog : Backlog limit now (f :: later) d.transport)
    (succeeds : m.SucceedsWith limit f response) (request : m.Request) (budget attempt : Nat) :
    let progress := Driver.drive m request none (budget + 1) attempt now d
    progress.ended = some (now, .ok (response, nextAttempt attempt))
      ∧ progress.journal.written = m.encode request
      ∧ Backlog limit now later progress.driver.transport := by
  obtain ⟨ended, written, behind⟩ := invoke_backlog backlog (Horizon.reaches_none now) request
  obtain ⟨judged, success⟩ := Method.succeedsWith_iff.mp succeeds
  have classified : d.policy.classify m (m.judge (f.verdict limit)) = .success response := by
    rw [judged]
    exact Policy.classify_eq_success_iff.mpr ⟨rfl, success⟩
  rw [Driver.drive_success budget attempt ended classified]
  refine ⟨rfl, ?_, behind⟩
  rw [Journal.written_append, written, written_logAt, List.append_nil]

theorem drive_noise {d : Driver Channel} (lenient : d.policy = .lenient)
    (backlog : Backlog limit now (f :: later) d.transport)
    (noise : ∀ response, ¬m.SucceedsWith limit f response) (request : m.Request)
    (budget attempt : Nat) :
    ∃ (journal : Journal) (next : Driver Channel),
      Driver.drive m request none (budget + 1) attempt now d
          = (Driver.drive m request none budget (nextAttempt attempt) (now + d.backoff) next).after
            journal
        ∧ journal.written = m.encode request
        ∧ next.policy = .lenient
        ∧ next.backoff = d.backoff
        ∧ Backlog limit (now + d.backoff) later next.transport := by
  obtain ⟨ended, written, behind⟩ := invoke_backlog backlog (Horizon.reaches_none now) request
  have failure (response) (judged : m.judge (f.verdict limit) = .ok response) :
      m.result response ≠ .success := fun success =>
    noise response (Method.succeedsWith_iff.mpr ⟨judged, success⟩)
  obtain ⟨reason, classified⟩ := Policy.classify_lenient failure
  rw [← lenient] at classified
  have again := Driver.drive_retryable budget attempt ended classified (Horizon.reaches_none _)
  refine ⟨_, _, again, ?_, lenient, rfl, behind.later (Nat.le_add_right now d.backoff)⟩
  rw [Journal.written_append, written, written_logAt, List.append_nil]

theorem drive_backlog {before : List Frame} {response : m.Response} {d : Driver Channel}
    (request : m.Request) (budget attempt : Nat) (lenient : d.policy = .lenient)
    (backlog : Backlog limit now (before ++ f :: later) d.transport)
    (noise : ∀ g ∈ before, ∀ response, ¬m.SucceedsWith limit g response)
    (succeeds : m.SucceedsWith limit f response) (enough : before.length < budget) :
    let progress := Driver.drive m request none budget attempt now d
    let time := now + before.length * d.backoff
    progress.ended = some (time, .ok (response, min (attempt + (before.length + 1)) maxAttempts))
      ∧ progress.journal.written
        = (List.replicate (before.length + 1) (m.encode request)).flatten
      ∧ Backlog limit time later progress.driver.transport := by
  induction before generalizing budget attempt now d with
  | nil =>
    cases budget with
    | zero => exact absurd enough (Nat.not_lt_zero _)
    | succ budget =>
      obtain ⟨ended, written, behind⟩ := drive_succeeds backlog succeeds request budget attempt
      simpa [written, nextAttempt] using ⟨ended, behind⟩
  | cons g before inductionHypothesis =>
    cases budget with
    | zero => exact absurd enough (Nat.not_lt_zero _)
    | succ budget =>
      obtain ⟨journal, next, again, written, lenient, pause, behind⟩ :=
        drive_noise lenient backlog (noise g List.mem_cons_self) request budget attempt
      -- the pause is counted for this attempt here and for the others by the induction
      have time : now + d.backoff + before.length * d.backoff
          = now + (before.length + 1) * d.backoff := by
        rw [Nat.succ_mul, Nat.add_assoc, Nat.add_comm d.backoff]
      obtain ⟨ended, copies, left⟩ := inductionHypothesis budget (nextAttempt attempt) lenient behind
        (fun g member => noise g (List.mem_cons_of_mem _ member)) (Nat.lt_of_succ_lt_succ enough)
      rw [pause, time] at ended left
      rw [min_nextAttempt_add] at ended
      rw [again]
      refine ⟨ended, ?_, left⟩
      rw [Progress.after, Journal.written_append, written, copies]
      rfl

end Backlogs

/-! ## Registration -/

namespace Driver

open Text (bytes)

/-- Registration over a new channel ends with the first frame that carries a successful
response: the attempts are the frames used up, each attempt has written the request once,
the credentials are those of the frame, and later calls go on with the frames behind it. -/
theorem register_through_noise (stream : ByteStream) (settings : ConnectionSettings)
    (before later : List Frame) (f : Frame) (response : RegisterResponse) (deviceId : UInt64)
    (deviceName : String) (backoff budget now : Nat)
    (named : (bytes deviceName).length ≤ maxNameSize)
    (minimum : headerSize ≤ settings.maxFrameSize)
    (writable : stream.Writable)
    (ready : ∀ a ∈ stream.arrivals, a.Ready now)
    (waiting : arrivedBytes stream.arrivals = (before ++ f :: later).flatMap Frame.bytes)
    (noise : ∀ g ∈ before, ∀ response,
      ¬Method.registerThing.SucceedsWith settings.maxFrameSize g response)
    (succeeds : Method.registerThing.SucceedsWith settings.maxFrameSize f response)
    (enough : before.length < budget) :
    let driver : Driver Channel := { transport := .over stream settings, backoff }
    let progress := driver.register deviceId deviceName none budget now
    let time := now + before.length * backoff
    progress.ended
        = some (time, .ok ⟨min (before.length + 1) maxAttempts, response.credentials⟩)
      ∧ progress.journal.written
        = (List.replicate (before.length + 1)
            (Message.registerRequest ⟨deviceId, deviceName, named⟩).encode).flatten
      ∧ ∀ steps : List Channel.Step, steps.countP Channel.Step.isCall ≤ later.length →
        (Channel.Run.steps { channel := progress.driver.transport, now := time } steps).replies
          = (later.take (steps.countP Channel.Step.isCall)).map
            (Frame.verdict settings.maxFrameSize) := by
  intro driver progress time
  have made : RegisterRequest.make deviceId deviceName = .ok ⟨deviceId, deviceName, named⟩ :=
    dif_pos named
  have backlog : Backlog settings.maxFrameSize now (before ++ f :: later) driver.transport := {
    limited := rfl
    minimum := minimum
    writable := writable
    boundary := rfl
    ready := ready
    waiting := waiting }
  obtain ⟨ended, written, left⟩ := drive_backlog (m := .registerThing)
    (d := { driver with state := .initial }) ⟨deviceId, deviceName, named⟩ budget 0 rfl backlog
    noise succeeds enough
  rw [Nat.zero_add] at ended
  simp only [progress, register, made]
  refine ⟨?_, ?_, fun steps few => ?_⟩
  · simp only [Progress.map, Progress.after, ended]
    rfl
  · simp only [Progress.map, Progress.after, Journal.written_append, written_logAt, written]
    rfl
  · exact Channel.Run.replies_backlog left steps few

/-- A frame of five bytes, one of an unknown kind, a success, and a success of the other
kind, cut into three reads. -/
def noisyStream : ByteStream where
  arrivals := [⟨0, .ok [0x99, 3, 7]⟩, ⟨0, .ok [7, 7, 0x77, 0, 0x11]⟩, ⟨0, .ok [1, 0, 0x15, 1, 0]⟩]

theorem register_through_noise_noisyStream :
    let settings : ConnectionSettings := { maxFrameSize := 4 }
    let driver : Driver Channel := { transport := .over noisyStream settings }
    let progress := driver.register 7 "lamp" none 3 0
    progress.ended = some (4000, .ok ⟨3, none⟩)
      ∧ progress.journal.written
        = (List.replicate 3 (Message.registerRequest ⟨7, "lamp", by decide⟩).encode).flatten
      ∧ (Channel.Run.steps { channel := progress.driver.transport, now := 4000 }
          [.sleep 5, .call [1] none]).replies = [.ok [0x15, 1, 0]] := by
  have ready : ∀ a ∈ noisyStream.arrivals, a.Ready 0 := by
    simp only [noisyStream, List.forall_mem_cons]
    exact ⟨⟨Nat.le_refl 0, List.cons_ne_nil _ _⟩, ⟨Nat.le_refl 0, List.cons_ne_nil _ _⟩,
      ⟨Nat.le_refl 0, List.cons_ne_nil _ _⟩, nofun⟩
  have noise : ∀ g ∈ [Frame.mk 0x99 [7, 7, 7] (by decide), Frame.mk 0x77 [] (by decide)],
      ∀ response, ¬Method.registerThing.SucceedsWith 4 g response := by
    intro g member response succeeds
    simp only [List.mem_cons, List.not_mem_nil, or_false] at member
    obtain rfl | rfl := member
    · exact absurd succeeds.fits (by decide)
    · exact nomatch succeeds.carries
  obtain ⟨ended, written, following⟩ := register_through_noise noisyStream { maxFrameSize := 4 }
    [Frame.mk 0x99 [7, 7, 7] (by decide), Frame.mk 0x77 [] (by decide)]
    [Frame.mk 0x15 [0] (by decide)] (Frame.mk 0x11 [0] (by decide)) ⟨.success, none⟩ 7 "lamp"
    defaultBackoff 3 0 (by decide) (by decide) ⟨nofun, nofun⟩ ready rfl noise
    ⟨by decide, rfl, rfl⟩ (by decide)
  exact ⟨ended, written, following [.sleep 5, .call [1] none] (by decide)⟩

end Driver

end ThingLink
