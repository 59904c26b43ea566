import ThingLink.Link.Channel

/-!
# Channels in use

A channel is used by one step after the other: calls, which may be abandoned while
they wait, pauses, and shutdowns.  `Channel.Run` is what has come of the steps so far;
what they do to the receiving side is told here once, call by call.
-/

namespace ThingLink

/-! ## What calls bring -/

def broughtBy : Option Reply → List (List UInt8)
  | some (.ok bytes) => [bytes]
  | some (.error _) | none => []

/-! ## Steps -/

/-- However short a patience is, the instant at which it begins is watched. -/
theorem Horizon.reaches_patience (now : Nat) (patience : Option Nat) :
    reaches (patience.map (now + ·)) now = true := by
  cases patience with
  | none => rfl
  | some span => exact decide_eq_true (Nat.le_add_right now span)

namespace Channel

inductive Step where
  /-- A request is sent and its reply is waited for; with a patience, the caller abandons
  the wait after so many milliseconds. -/
  | call (request : List UInt8) (patience : Option Nat)
  | sleep (span : Nat)
  | close

/-- What has come of the steps so far. -/
structure Run where
  channel : Channel
  now : Nat
  /-- How each call ended, the first one first; `none` for one that was abandoned. -/
  ends : List (Option (Nat × Reply)) := []
  journal : Journal := []

namespace Run

def step (run : Run) : Step → Run
  | .call request patience =>
      let exchange := run.channel.call run.now (patience.map (run.now + ·)) request
      -- a call that has not ended was abandoned when its patience was over
      let now := match exchange.ended with
        | some (time, _) => time
        | none => run.now + patience.getD 0
      ⟨exchange.after, now, run.ends ++ [exchange.ended], run.journal ++ exchange.journal⟩
  | .sleep span => { run with now := run.now + span }
  | .close =>
      let (_, journal, channel) := run.channel.close run.now
      { run with channel, journal := run.journal ++ journal }

def steps (run : Run) (steps : List Step) : Run :=
  steps.foldl step run

def replies (run : Run) : List Reply :=
  run.ends.filterMap (·.map Prod.snd)

def frames (run : Run) : List (List UInt8) :=
  run.ends.flatMap fun ended => broughtBy (ended.map Prod.snd)

@[simp] theorem channel_step_call (run : Run) (request : List UInt8) (patience : Option Nat) :
    (run.step (.call request patience)).channel
      = (run.channel.call run.now (patience.map (run.now + ·)) request).after :=
  rfl

theorem frames_step_call (run : Run) (request : List UInt8) (patience : Option Nat) :
    (run.step (.call request patience)).frames = run.frames
      ++ broughtBy ((run.channel.call run.now (patience.map (run.now + ·)) request).ended.map
        Prod.snd) := by
  simp [frames, step, List.flatMap_append]

end Run

/-! ## The two halves of a call -/

/-- The first half of a call: an oversized frame left behind is forgotten, then the
request is sent. -/
def dispatch (c : Channel) (request : List UInt8) :
    List (List UInt8) × Option IoError × Channel :=
  { c with receiver := c.receiver.forget }.send request

def writesAt (now : Nat) (pieces : List (List UInt8)) : Journal :=
  pieces.map fun bytes => ⟨now, .write bytes⟩

section Halves

variable {c : Channel} {request : List UInt8} {now : Nat} {horizon : Horizon}

theorem call_of_failure {e : IoError} (failed : (c.dispatch request).2.1 = some e) :
    c.call now horizon request
      = ⟨some (now, .error (.ofIo e)), writesAt now (c.dispatch request).1,
        (c.dispatch request).2.2⟩ := by
  unfold dispatch at failed ⊢
  unfold call
  generalize { c with receiver := c.receiver.forget }.send request = result at failed ⊢
  obtain ⟨pieces, failure, c'⟩ := result
  cases failed
  rfl

theorem call_of_success (sent : (c.dispatch request).2.1 = none) :
    let after := (c.dispatch request).2.2
    let waited :=
      awaitFrame after.limit (now + after.timeout) horizon after.stream.ends
        after.stream.arrivals now after.receiver
    c.call now horizon request
      = ⟨waited.ended, writesAt now (c.dispatch request).1,
        { after with
          receiver := waited.receiver
          stream := { after.stream with arrivals := waited.arrivals } }⟩ := by
  unfold dispatch at sent ⊢
  unfold call
  generalize { c with receiver := c.receiver.forget }.send request = result at sent ⊢
  obtain ⟨pieces, failure, c'⟩ := result
  cases sent
  rfl

/-- A call writes at once, whatever comes of it. -/
theorem call_journal (c : Channel) (now : Nat) (horizon : Horizon) (request : List UInt8) :
    (c.call now horizon request).journal = writesAt now (c.dispatch request).1 := by
  cases sent : (c.dispatch request).2.1 with
  | some e => rw [call_of_failure sent]
  | none => rw [call_of_success sent]

end Halves

-- besides the receiver's note of an oversized frame, a request uses up results only
theorem dispatch_after (c : Channel) (request : List UInt8) :
    ∃ writes flushes, (c.dispatch request).2.2
      = { c with receiver := c.receiver.forget, stream := { c.stream with writes, flushes } } := by
  unfold dispatch send
  dsimp only
  split
  · exact ⟨_, c.stream.flushes, rfl⟩
  · exact ⟨_, _, rfl⟩

@[simp] theorem dispatch_receiver (c : Channel) (request : List UInt8) :
    (c.dispatch request).2.2.receiver = c.receiver.forget := by
  obtain ⟨writes, flushes, after⟩ := c.dispatch_after request
  rw [after]

@[simp] theorem dispatch_arrivals (c : Channel) (request : List UInt8) :
    (c.dispatch request).2.2.stream.arrivals = c.stream.arrivals := by
  obtain ⟨writes, flushes, after⟩ := c.dispatch_after request
  rw [after]

@[simp] theorem dispatch_limit (c : Channel) (request : List UInt8) :
    (c.dispatch request).2.2.limit = c.limit := by
  obtain ⟨writes, flushes, after⟩ := c.dispatch_after request
  rw [after]

@[simp] theorem call_limit (c : Channel) (now : Nat) (horizon : Horizon) (request : List UInt8) :
    (c.call now horizon request).after.limit = c.limit := by
  cases sent : (c.dispatch request).2.1 with
  | some e => simp [call_of_failure sent]
  | none => simp [call_of_success sent]

end Channel

end ThingLink
