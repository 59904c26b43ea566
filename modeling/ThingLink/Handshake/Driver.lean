import ThingLink.Handshake.Policy
import ThingLink.Link.Transport
import ThingLink.Text.Span

/-!
# Handshakes

A driver registers or authenticates a thing: it sends the same request again and
again, with a fixed pause after each failure, until an attempt succeeds or fails
for good.  There is no limit on the attempts; `Driver.drive` is given how many it
may make, and how far the clock is watched.
-/

namespace ThingLink

open Text (decimal span paddedHex)

/-! ## One attempt -/

namespace Method

/-- What a reply means to a method: the response it carries, or the error. -/
def judge (m : Method) : Reply → Except CallError m.Response
  | .error e => .error e
  | .ok bytes =>
      match Message.decode bytes with
      | .error e => .error (.decode e)
      | .ok message =>
          match m.response? message with
          | some response => .ok response
          | none => .error (.unexpectedResponse m message.kind)

theorem judge_eq_ok_iff {m : Method} {reply : Reply} {response : m.Response} :
    m.judge reply = .ok response
      ↔ ∃ bytes, reply = .ok bytes ∧ Message.decode bytes = .ok (m.responseMessage response) := by
  constructor
  · intro judged
    unfold judge at judged
    split at judged
    · exact nomatch judged
    · next bytes =>
      split at judged
      · exact nomatch judged
      · next message decoded =>
        split at judged
        · next found =>
          cases judged
          exact ⟨bytes, rfl, decoded.trans (congrArg _ (response?_eq_some_iff.mp found))⟩
        · exact nomatch judged
  · rintro ⟨bytes, rfl, decoded⟩
    simp only [judge, decoded, response?_eq_some_iff.mpr rfl]

def encode (m : Method) (request : m.Request) : List UInt8 :=
  (m.requestMessage request).encode

end Method

/-! ## Lines of the log -/

namespace LogLine

def callSource : String := "knot_thing_client::rpc"

def handshakeSource : String := "knot_thing_client::registration"

def timedOut (m : Method) : LogLine :=
  ⟨.warn, callSource, "operation " ++ m.name ++ " timeout"⟩

def registering (r : RegisterRequest) : LogLine :=
  ⟨.info, handshakeSource,
    "Registering thing " ++ paddedHex 16 r.deviceId.toNat ++ " (" ++ r.deviceName ++ ")"⟩

def authenticating (c : Credentials) : LogLine :=
  ⟨.info, handshakeSource, "Authenticating thing " ++ c.uuid⟩

def succeeded (m : Method) (attempt : Nat) : LogLine :=
  ⟨.info, handshakeSource,
    m.name ++ " succeeded after " ++ decimal attempt ++ " attempt(s)"⟩

def attemptFailed (m : Method) (attempt : Nat) (reason : RetryReason) (backoff : Nat) : LogLine :=
  ⟨if reason.isPermanent then .error else .warn, handshakeSource,
    m.name ++ " attempt " ++ decimal attempt ++ " failed: " ++ reason.message
      ++ "; trying again in " ++ span backoff⟩

def attemptFatal (m : Method) (attempt : Nat) (error : RegistrationError) : LogLine :=
  ⟨.error, handshakeSource,
    m.name ++ " attempt " ++ decimal attempt ++ " failed permanently: " ++ error.message⟩

end LogLine

/-- What the invoker logs about a reply: timeouts alone are reported here. -/
def replyLines (m : Method) : Reply → List LogLine
  | .error .timeout => [.timedOut m]
  | _ => []

/-- What the driver logs about an outcome; a timeout has been reported already. -/
def outcomeLines (m : Method) (attempt backoff : Nat) : Outcome m.Response → List LogLine
  | .success _ => [.succeeded m attempt]
  | .retryable (.call .timeout) => []
  | .retryable reason => [.attemptFailed m attempt reason backoff]
  | .fatal error => [.attemptFatal m attempt error]

/-! ## One call -/

structure Invocation (σ : Type) (m : Method) where
  ended : Option (Nat × Except CallError m.Response)
  journal : Journal
  after : σ

def invoke {σ : Type} [Transport σ] (transport : σ) (m : Method) (request : m.Request)
    (now : Nat) (horizon : Horizon) : Invocation σ m :=
  let exchange := Transport.call transport now horizon (m.encode request)
  match exchange.ended with
  | none => ⟨none, exchange.journal, exchange.after⟩
  | some (time, reply) =>
      ⟨some (time, m.judge reply),
        exchange.journal ++ (replyLines m reply).map fun line => ⟨time, .log line⟩,
        exchange.after⟩

/-! ## The driver -/

inductive DriverState where
  | initial
  | awaiting (attempt : Nat)
  | retrying (attempt : Nat)
  | done (attempts : Nat)
  | failed (attempts : Nat)
  deriving DecidableEq, Repr

def maxAttempts : Nat := UInt32.size - 1

/-- The number of the next attempt; counting stops at the highest number. -/
def nextAttempt (attempt : Nat) : Nat :=
  min (attempt + 1) maxAttempts

theorem min_nextAttempt_add (attempt more : Nat) :
    min (nextAttempt attempt + more) maxAttempts = min (attempt + (more + 1)) maxAttempts := by
  unfold nextAttempt
  generalize maxAttempts = most
  omega

def defaultBackoff : Nat := 2000

structure Driver (σ : Type) where
  transport : σ
  backoff : Nat := defaultBackoff
  policy : Policy := .lenient
  state : DriverState := .initial

structure Progress (σ α : Type) where
  /-- The result and its instant, or nothing if the handshake goes on. -/
  ended : Option (Nat × Except RegistrationError α)
  journal : Journal
  driver : Driver σ

namespace Progress

def after {σ α : Type} (earlier : Journal) (p : Progress σ α) : Progress σ α :=
  { p with journal := earlier ++ p.journal }

def map {σ α β : Type} (f : α → β) (p : Progress σ α) : Progress σ β :=
  { p with ended := p.ended.map fun (time, result) => (time, result.map f) }

end Progress

def logAt (time : Nat) (lines : List LogLine) : Journal :=
  lines.map fun line => ⟨time, .log line⟩

namespace Driver

variable {σ : Type} [Transport σ]

/-- Makes at most `budget` more attempts after `attempt`, the first one at `now`.
A result carries the number of the attempt that brought it. -/
def drive (m : Method) (request : m.Request) (horizon : Horizon) :
    (budget : Nat) → (attempt : Nat) → (now : Nat) → Driver σ → Progress σ (m.Response × Nat)
  | 0, _, _, d => ⟨none, [], d⟩
  | budget + 1, attempt, now, d =>
      let attempt := nextAttempt attempt
      let invocation := invoke d.transport m request now horizon
      let d := { d with transport := invocation.after }
      match invocation.ended with
      | none => ⟨none, invocation.journal, { d with state := .awaiting attempt }⟩
      | some (time, answer) =>
          let outcome := d.policy.classify m answer
          let journal :=
            invocation.journal ++ logAt time (outcomeLines m attempt d.backoff outcome)
          match outcome with
          | .success response =>
              ⟨some (time, .ok (response, attempt)), journal, { d with state := .done attempt }⟩
          | .fatal error =>
              ⟨some (time, .error error), journal, { d with state := .failed attempt }⟩
          | .retryable _ =>
              -- the pause may be cut off by the horizon, which leaves the driver retrying
              let d := { d with state := .retrying attempt }
              let wake := time + d.backoff
              if horizon.reaches wake then
                (drive m request horizon budget attempt wake d).after journal
              else ⟨none, journal, d⟩

section Attempts

variable {m : Method} {request : m.Request} {horizon : Horizon} {now time : Nat}
  {d : Driver σ} {answer : Except CallError m.Response}

theorem drive_success {response : m.Response} (budget attempt : Nat)
    (ended : (invoke d.transport m request now horizon).ended = some (time, answer))
    (success : d.policy.classify m answer = .success response) :
    let invocation := invoke d.transport m request now horizon
    drive m request horizon (budget + 1) attempt now d
      = ⟨some (time, .ok (response, nextAttempt attempt)),
        invocation.journal
          ++ logAt time (outcomeLines m (nextAttempt attempt) d.backoff (.success response)),
        { d with transport := invocation.after, state := .done (nextAttempt attempt) }⟩ := by
  simp only [drive, ended, success]

theorem drive_pending (budget attempt : Nat)
    (pending : (invoke d.transport m request now horizon).ended = none) :
    let invocation := invoke d.transport m request now horizon
    drive m request horizon (budget + 1) attempt now d
      = ⟨none, invocation.journal,
        { d with transport := invocation.after, state := .awaiting (nextAttempt attempt) }⟩ := by
  simp only [drive, pending]

theorem drive_fatal {error : RegistrationError} (budget attempt : Nat)
    (ended : (invoke d.transport m request now horizon).ended = some (time, answer))
    (fatal : d.policy.classify m answer = .fatal error) :
    let invocation := invoke d.transport m request now horizon
    drive m request horizon (budget + 1) attempt now d
      = ⟨some (time, .error error),
        invocation.journal
          ++ logAt time (outcomeLines m (nextAttempt attempt) d.backoff (.fatal error)),
        { d with transport := invocation.after, state := .failed (nextAttempt attempt) }⟩ := by
  simp only [drive, ended, fatal]

theorem drive_cutOff {reason : RetryReason} (budget attempt : Nat)
    (ended : (invoke d.transport m request now horizon).ended = some (time, answer))
    (retryable : d.policy.classify m answer = .retryable reason)
    (unwatched : ¬horizon.reaches (time + d.backoff)) :
    let invocation := invoke d.transport m request now horizon
    drive m request horizon (budget + 1) attempt now d
      = ⟨none,
        invocation.journal
          ++ logAt time (outcomeLines m (nextAttempt attempt) d.backoff (.retryable reason)),
        { d with transport := invocation.after, state := .retrying (nextAttempt attempt) }⟩ := by
  simp only [drive, ended, retryable, unwatched, if_false, Bool.false_eq_true]

theorem drive_retryable {reason : RetryReason} (budget attempt : Nat)
    (ended : (invoke d.transport m request now horizon).ended = some (time, answer))
    (retryable : d.policy.classify m answer = .retryable reason)
    (watched : horizon.reaches (time + d.backoff)) :
    let invocation := invoke d.transport m request now horizon
    drive m request horizon (budget + 1) attempt now d
      = (drive m request horizon budget (nextAttempt attempt) (time + d.backoff)
          { d with transport := invocation.after, state := .retrying (nextAttempt attempt) }).after
        (invocation.journal
          ++ logAt time (outcomeLines m (nextAttempt attempt) d.backoff (.retryable reason))) := by
  simp only [drive, ended, retryable, watched, if_true]

end Attempts

structure Registration where
  /-- How many requests were sent, the successful one included. -/
  attempts : Nat
  credentials : Option Credentials
  deriving DecidableEq

def register (d : Driver σ) (deviceId : UInt64) (deviceName : String)
    (horizon : Horizon) (budget now : Nat) : Progress σ Registration :=
  -- a name that is too long fails before anything is sent or logged
  let d := { d with state := .initial }
  match RegisterRequest.make deviceId deviceName with
  | .error e => ⟨some (now, .error (.invalidRequest e)), [], d⟩
  | .ok request =>
      ((drive .registerThing request horizon budget 0 now d).after
        (logAt now [.registering request])).map
        fun (response, attempts) => ⟨attempts, response.credentials⟩

def authenticate (d : Driver σ) (credentials : Credentials)
    (horizon : Horizon) (budget now : Nat) : Progress σ Nat :=
  let d := { d with state := .initial }
  ((drive .authThing ⟨credentials⟩ horizon budget 0 now d).after
    (logAt now [.authenticating credentials])).map Prod.snd

end Driver

end ThingLink
