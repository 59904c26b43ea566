import ThingLink.Proofs.Link.Waits

/-!
# One deadline for a whole reply

A call ends at the first instant of its span by which the signals that have come decide it, and
else at its deadline with a timeout: it takes no more than what has come by then, and bytes that
come one by one do not put the deadline off.  Since signals know nothing of reads, two channels
whose bytes are due at the same instants are used alike, however the bytes are cut.
-/

namespace ThingLink

/-! ## Decisions -/

/-- What some signals decide: the frame behind the bytes to be skipped, once it is there as a whole,
and without one the end of the stream or a failure that comes first.  Nothing that comes later
matters. -/
inductive Decides (limit skipping : Nat) : List Signal → Reply → Prop
  | frame {skipped : List UInt8} {f : Frame} {later : List Signal}
      (behind : skipped.length = skipping) :
      Decides limit skipping ((skipped ++ f.bytes).map .byte ++ later)
        (if f.size ≤ limit then .ok f.bytes else .error (.frameTooLarge f.size limit))
  | ended {bytes : List UInt8} {mark : Signal} {later : List Signal}
      (unfinished : ∀ f : Frame, ¬f.bytes <+: bytes.drop skipping)
      (ends : mark = .pause ∨ mark = .over) :
      Decides limit skipping (bytes.map .byte ++ mark :: later) (.error .connectionClosed)
  | failed {bytes : List UInt8} {e : IoError} {later : List Signal}
      (unfinished : ∀ f : Frame, ¬f.bytes <+: bytes.drop skipping) :
      Decides limit skipping (bytes.map .byte ++ .failure e :: later)
        (.error (if e.kind ∈ [.unexpectedEof, .connectionReset, .brokenPipe] then .connectionClosed
          else .io e))

theorem Frame.front?_eq_none_iff {bs : List UInt8} :
    Frame.front? bs = none ↔ ∀ f : Frame, ¬f.bytes <+: bs := by
  rw [Option.eq_none_iff_forall_ne_some]
  refine forall_congr' fun f => not_congr (Frame.front?_eq_some_iff.trans ?_)
  exact exists_congr fun rest => eq_comm

/-- Signals are bytes up to the first mark. -/
theorem exists_leadingBytes (signals : List Signal) :
    ∃ later, signals = (leadingBytes signals).map .byte ++ later ∧ leadingBytes later = [] := by
  induction signals with
  | nil => exact ⟨[], rfl, rfl⟩
  | cons signal rest inductionHypothesis =>
    cases signal with
    | byte b =>
      obtain ⟨later, split, first⟩ := inductionHypothesis
      exact ⟨later, congrArg (Signal.byte b :: ·) split, first⟩
    | _ => exact ⟨_ :: rest, rfl, rfl⟩

section Decisions

variable {limit skipping : Nat} {signals later : List Signal} {bytes : List UInt8} {f : Frame}
  {reply : Reply}

theorem decides_of_front (front : Frame.front? (bytes.drop skipping) = some f) :
    Decides limit skipping (bytes.map .byte ++ later) (f.verdict limit) := by
  obtain ⟨rest, ahead⟩ := Frame.front?_eq_some_iff.mp front
  have behind : (bytes.take skipping).length = skipping := by
    have lengths := congrArg List.length ahead
    have positive := f.size_eq
    rw [List.length_drop, List.length_append] at lengths
    rw [Frame.size, Header.frameSize, headerSize] at positive
    rw [List.length_take]
    omega
  have parts : bytes = bytes.take skipping ++ f.bytes ++ rest := by
    rw [List.append_assoc, ← ahead, List.take_append_drop]
  rw [parts, List.map_append, List.append_assoc]
  exact .frame behind

theorem decision?_of_unfinished (unfinished : Frame.front? (bytes.drop skipping) = none)
    (first : leadingBytes later = []) :
    decision? limit skipping (bytes.map .byte ++ later) = (markError? later).map .error := by
  rw [decision?, leadingBytes_append, markError?_append, first, List.append_nil, unfinished]
  rfl

theorem decision?_eq_some_iff :
    decision? limit skipping signals = some reply ↔ Decides limit skipping signals reply := by
  constructor
  · intro decided
    obtain ⟨later, split, first⟩ := exists_leadingBytes signals
    generalize leadingBytes signals = bytes at split
    subst split
    cases front : Frame.front? (bytes.drop skipping) with
    | some f =>
      rw [decision?, leadingBytes_append, first, List.append_nil, front] at decided
      cases decided
      exact decides_of_front front
    | none =>
      rw [decision?_of_unfinished front first] at decided
      have unfinished := Frame.front?_eq_none_iff.mp front
      cases later with
      | nil => cases decided
      | cons mark later =>
        cases mark with
        | byte b => cases first
        | failure e =>
          cases decided
          rw [CallError.ofIo_eq]
          exact .failed unfinished
        | pause =>
          cases decided
          exact .ended unfinished (.inl rfl)
        -- the end of the stream for good
        | _ =>
          cases decided
          exact .ended unfinished (.inr rfl)
  · intro decides
    cases decides with
    | @frame skipped f later behind =>
      have front : Frame.front? ((skipped ++ f.bytes ++ leadingBytes later).drop skipping)
          = some f := by
        rw [List.append_assoc, List.drop_left' behind]
        exact Frame.front?_eq_some_iff.mpr ⟨_, rfl⟩
      rw [decision?, leadingBytes_append, front]
      rfl
    | ended unfinished ends =>
      rw [← Frame.front?_eq_none_iff] at unfinished
      rcases ends with rfl | rfl
      · exact decision?_of_unfinished unfinished rfl
      · exact decision?_of_unfinished unfinished rfl
    | failed unfinished =>
      rw [← Frame.front?_eq_none_iff] at unfinished
      rw [← CallError.ofIo_eq]
      exact decision?_of_unfinished unfinished rfl

end Decisions

/-! ## Calls -/

namespace Channel

/-- The signals that a call can have met by an instant: the bytes left over from earlier calls,
and what has come behind them. -/
def metBy (c : Channel) (time : Nat) : List Signal :=
  c.receiver.buffer.map .byte ++ signalsBy c.stream.ends c.stream.arrivals time

/-- What a call comes to by an instant, if anything. -/
def decidedBy (c : Channel) (time : Nat) : Option Reply :=
  decision? c.limit c.receiver.skipping (c.metBy time)

section Calls

variable {c : Channel} {now left : Nat} {horizon : Horizon} {request : List UInt8}

theorem decision?_forget (minimum : headerSize ≤ c.limit) (time : Nat) :
    c.receiver.forget.decision? c.limit (signalsBy c.stream.ends c.stream.arrivals time)
      = c.decidedBy time := by
  rw [decidedBy, decision?, metBy, leadingBytes_append, markError?_append,
    ← Receiver.reply?_take minimum]
  rfl

theorem dispatch_timeout (c : Channel) (request : List UInt8) :
    (c.dispatch request).2.2.timeout = c.timeout := by
  obtain ⟨writes, flushes, after⟩ := c.dispatch_after request
  rw [after]

theorem dispatch_ends (c : Channel) (request : List UInt8) :
    (c.dispatch request).2.2.stream.ends = c.stream.ends := by
  obtain ⟨writes, flushes, after⟩ := c.dispatch_after request
  rw [after]

/-- What a call that was sent has waited for. -/
theorem call_waited (now : Nat) (horizon : Horizon) (sent : (c.dispatch request).2.1 = none) :
    let exchange := c.call now horizon request
    let waited := awaitFrame c.limit (now + c.timeout) horizon c.stream.ends c.stream.arrivals now
      c.receiver.forget
    exchange.ended = waited.ended
      ∧ exchange.after.receiver = waited.receiver
      ∧ exchange.after.stream.arrivals = waited.arrivals
      ∧ exchange.after.stream.ends = c.stream.ends := by
  rw [call_of_success sent]
  simp only [dispatch_receiver, dispatch_arrivals, dispatch_limit, dispatch_timeout, dispatch_ends,
    and_self]

theorem call_ends (minimum : headerSize ≤ c.limit) (watched : horizon.reaches now)
    (sent : (c.dispatch request).2.1 = none) :
    ∃ time reply, EndsAt c.decidedBy now (now + c.timeout) time reply
      ∧ (c.call now horizon request).ended
        = if horizon.reaches time then some (time, reply) else none := by
  obtain ⟨time, reply, ends, ended⟩ := awaitFrame_ends c.limit c.stream.ends c.receiver.forget
    c.stream.arrivals (Nat.le_add_right now c.timeout) watched
  rw [(call_waited _ _ sent).1]
  exact ⟨time, reply, ends.congr fun t _ => (decision?_forget minimum t).symm, ended⟩

/-- What is left of a call that was sent.  Either it has used up the bytes to the end of the next
frame, or everything that it has met to the first mark, save the bytes that its last look keeps. -/
theorem call_leaves (minimum : headerSize ≤ c.limit) (watched : horizon.reaches now)
    (sent : (c.dispatch request).2.1 = none)
    (leaves : LeftAt horizon (c.call now horizon request).ended left) :
    let exchange := c.call now horizon request
    let look := (Receiver.take c.limit ⟨leadingBytes (c.metBy left), c.receiver.skipping, none⟩).2
    (∃ f : Frame, exchange.ended.map Prod.snd = some (f.verdict c.limit)
        ∧ exchange.after.receiver.skipping = 0
        ∧ ∀ time, left ≤ time →
          exchange.after.metBy time = (c.metBy time).drop (c.receiver.skipping + f.size))
      ∨ (Unanswered (exchange.ended.map Prod.snd)
        ∧ exchange.after.receiver = look
        ∧ ∀ time, left ≤ time →
          exchange.after.metBy time
            = look.buffer.map .byte ++ (c.metBy time).drop (usedUp (c.metBy left))) := by
  intro exchange look
  obtain ⟨ended, receiver, arrivals, ends⟩ := call_waited now horizon sent
  rw [ended] at leaves
  obtain ⟨-, taken, takes⟩ := awaitFrame_takes (Nat.le_add_right now c.timeout) watched leaves
  have met (time : Nat) (later : left ≤ time) :
      c.metBy time = c.receiver.buffer.map .byte ++ (taken.flatMap Arrival.signals
        ++ signalsBy c.stream.ends exchange.after.stream.arrivals time) := by
    rw [metBy, takes.split, ← arrivals,
      signalsBy_append fun a member => Nat.le_trans (takes.due a member) later]
  have after (time : Nat) : exchange.after.metBy time = exchange.after.receiver.buffer.map .byte
      ++ signalsBy c.stream.ends exchange.after.stream.arrivals time := by
    rw [metBy, show exchange.after.stream.ends = _ from ends]
  have all : c.receiver.forget.receive (arrivedBytes taken)
      = ⟨c.receiver.buffer ++ arrivedBytes taken, c.receiver.skipping, none⟩ := rfl
  have concluded := takes.looked.concluded
  have kept := receiver.trans takes.looked.receiver
  have settled := takes.settled
  have unsettled := takes.unsettled
  rw [all] at concluded kept settled unsettled
  rw [← ended, Receiver.reply?_take minimum] at concluded
  rw [Receiver.reply?_take minimum] at settled unsettled
  cases front : Frame.front?
      ((c.receiver.buffer ++ arrivedBytes taken).drop c.receiver.skipping) with
  | some f =>
    rw [front] at concluded settled
    rw [(Receiver.take_front minimum front).2] at kept
    obtain ⟨rest, split⟩ := Frame.front?_eq_some_iff.mp front
    have enough : c.receiver.skipping + f.size
        ≤ ((c.receiver.buffer ++ arrivedBytes taken).map Signal.byte).length := by
      have lengths : _ = f.size + rest.length :=
        (congrArg List.length split).trans List.length_append
      have positive := f.size_eq
      rw [List.length_drop] at lengths
      rw [List.length_map]
      simp only [Header.frameSize, headerSize] at positive
      omega
    refine .inl ⟨f, concluded.eq_of_some, congrArg Receiver.skipping kept, fun time later => ?_⟩
    rw [after, kept, met time later, settled (Option.some_ne_none _), ← List.append_assoc,
      ← List.map_append, List.drop_append_of_le_length enough, List.map_drop]
  | none =>
    rw [front] at concluded unsettled
    obtain ⟨heard, used⟩ := unsettled rfl
    have bytes : leadingBytes (c.metBy left) = c.receiver.buffer ++ arrivedBytes taken := by
      rw [metBy, leadingBytes_append, heard]
    have count : usedUp (c.metBy left)
        = (c.receiver.buffer.map Signal.byte ++ taken.flatMap Arrival.signals).length := by
      rw [metBy, usedUp_append, used, List.length_append, List.length_map]
    have same : exchange.after.receiver = look := by rw [kept, ← bytes]
    refine .inr ⟨concluded.of_none, same, fun time later => ?_⟩
    rw [after, same, met time later, count, ← List.append_assoc, List.drop_left]

end Calls

/-! ## Other cuts of the same bytes -/

/-- Two channels that can be told apart, from an instant on, only by how their bytes are cut. -/
structure Alike (now : Nat) (c d : Channel) : Prop where
  timeout : d.timeout = c.timeout
  limit : d.limit = c.limit
  skipping : d.receiver.skipping = c.receiver.skipping
  ends : d.stream.ends = c.stream.ends
  writes : d.stream.writes = c.stream.writes
  flushes : d.stream.flushes = c.stream.flushes
  met : ∀ time, now ≤ time → d.metBy time = c.metBy time

namespace Alike

variable {now : Nat} {c d : Channel}

theorem later {time : Nat} (alike : Alike now c d) (order : now ≤ time) : Alike time c d :=
  { alike with met := fun t notBefore => alike.met t (Nat.le_trans order notBefore) }

theorem decided (alike : Alike now c d) {time : Nat} (order : now ≤ time) :
    d.decidedBy time = c.decidedBy time := by
  rw [decidedBy, alike.limit, alike.skipping, alike.met time order, decidedBy]

theorem dispatch (alike : Alike now c d) (request : List UInt8) :
    (d.dispatch request).1 = (c.dispatch request).1
      ∧ (d.dispatch request).2.1 = (c.dispatch request).2.1
      ∧ (d.dispatch request).2.2.stream.writes = (c.dispatch request).2.2.stream.writes
      ∧ (d.dispatch request).2.2.stream.flushes = (c.dispatch request).2.2.stream.flushes := by
  unfold Channel.dispatch Channel.send
  dsimp only
  rw [alike.writes, alike.flushes]
  split
  · exact ⟨rfl, rfl, rfl, rfl⟩
  · exact ⟨rfl, rfl, rfl, rfl⟩

/-- Requests of the same bytes leave the channels alike. -/
theorem dispatched (alike : Alike now c d) (request : List UInt8) :
    Alike now (c.dispatch request).2.2 (d.dispatch request).2.2 := by
  obtain ⟨-, -, writes, flushes⟩ := alike.dispatch request
  have kept (c : Channel) (time : Nat) : (c.dispatch request).2.2.metBy time = c.metBy time := by
    rw [metBy, dispatch_receiver, dispatch_arrivals, dispatch_ends]
    rfl
  refine ⟨?_, ?_, ?_, ?_, writes, flushes, fun time order => ?_⟩
  · rw [dispatch_timeout, dispatch_timeout, alike.timeout]
  · rw [dispatch_limit, dispatch_limit, alike.limit]
  · rw [dispatch_receiver, dispatch_receiver]
    exact alike.skipping
  · rw [dispatch_ends, dispatch_ends, alike.ends]
  · rw [kept, kept, alike.met time order]

theorem call_ended {horizon : Horizon} {request : List UInt8} (minimum : headerSize ≤ c.limit)
    (alike : Alike now c d) (watched : horizon.reaches now)
    (sent : (c.dispatch request).2.1 = none) (again : (d.dispatch request).2.1 = none) :
    (d.call now horizon request).ended = (c.call now horizon request).ended := by
  obtain ⟨time, reply, ends, ended⟩ := call_ends minimum watched sent
  obtain ⟨time', reply', ends', ended'⟩ := call_ends (alike.limit ▸ minimum) watched again
  rw [alike.timeout] at ends'
  obtain ⟨rfl, rfl⟩ := ends.unique (ends'.congr fun t order => (alike.decided order).symm)
  rw [ended, ended']

theorem call_leaves {horizon : Horizon} {request : List UInt8} {left : Nat}
    (minimum : headerSize ≤ c.limit) (alike : Alike now c d) (watched : horizon.reaches now)
    (sent : (c.dispatch request).2.1 = none) (again : (d.dispatch request).2.1 = none)
    (order : now ≤ left) (leaves : LeftAt horizon (c.call now horizon request).ended left) :
    let one := (c.call now horizon request).after
    let other := (d.call now horizon request).after
    other.receiver.skipping = one.receiver.skipping
      ∧ ∀ time, left ≤ time → other.metBy time = one.metBy time := by
  intro one other
  have same := alike.call_ended minimum watched sent again
  have met (time : Nat) (later : left ≤ time) : d.metBy time = c.metBy time :=
    alike.met time (Nat.le_trans order later)
  have first := Channel.call_leaves minimum watched sent leaves
  rw [← same] at leaves
  have second := Channel.call_leaves (alike.limit ▸ minimum) watched again leaves
  dsimp only at second
  rw [same, alike.limit, alike.skipping] at second
  rcases first with ⟨f, settled, boundary, rest⟩ | ⟨unanswered, kept, rest⟩
  · rcases second with ⟨g, settled', boundary', rest'⟩ | ⟨unanswered, -⟩
    · -- both calls return the same verdict, so they have used up frames of the same size
      have sized : g.size = f.size :=
        Frame.size_eq_of_verdict (Option.some.inj (settled'.symm.trans settled))
      refine ⟨boundary'.trans boundary.symm, fun time later => ?_⟩
      rw [rest time later, rest' time later, met time later, sized]
    · rw [settled] at unanswered
      exact absurd unanswered (f.not_unanswered_verdict _)
  · rcases second with ⟨g, settled, -⟩ | ⟨-, kept', rest'⟩
    · rw [settled] at unanswered
      exact absurd unanswered (g.not_unanswered_verdict _)
    · rw [met left (Nat.le_refl left)] at kept' rest'
      refine ⟨by rw [kept, kept'], fun time later => ?_⟩
      rw [rest time later, rest' time later, met time later]

theorem call {horizon : Horizon} (minimum : headerSize ≤ c.limit) (alike : Alike now c d)
    (watched : horizon.reaches now) (request : List UInt8) :
    let one := c.call now horizon request
    let other := d.call now horizon request
    other.ended = one.ended ∧ other.journal = one.journal
      ∧ ∀ left, LeftAt horizon one.ended left → Alike left one.after other.after := by
  obtain ⟨pieces, outcome, -⟩ := alike.dispatch request
  have dispatched := alike.dispatched request
  cases sent : (c.dispatch request).2.1 with
  | some e =>
    rw [call_of_failure sent, call_of_failure (outcome.trans sent), pieces]
    refine ⟨rfl, rfl, fun left leaves => ?_⟩
    cases leaves
    exact dispatched
  | none =>
    have again := outcome.trans sent
    refine ⟨alike.call_ended minimum watched sent again, ?_, fun left leaves => ?_⟩
    · rw [call_of_success sent, call_of_success again, pieces]
    · have order : now ≤ left := by
        rw [(call_waited _ _ sent).1] at leaves
        exact (awaitFrame_takes (Nat.le_add_right now c.timeout) watched leaves).1
      obtain ⟨skipping, met⟩ := alike.call_leaves minimum watched sent again order leaves
      rw [call_of_success sent, call_of_success again] at skipping met ⊢
      exact {
        timeout := dispatched.timeout
        limit := dispatched.limit
        skipping := skipping
        ends := dispatched.ends
        writes := dispatched.writes
        flushes := dispatched.flushes
        met := met }

end Alike

/-- A call that is watched without an end has one. -/
theorem call_ended_ne_none (c : Channel) (now : Nat) (request : List UInt8) :
    (c.call now none request).ended ≠ none := by
  cases sent : (c.dispatch request).2.1 with
  | some e =>
    rw [call_of_failure sent]
    exact Option.some_ne_none _
  | none =>
    rw [(call_waited _ _ sent).1]
    obtain ⟨time, reply, -, ended⟩ := awaitFrame_ends c.limit c.stream.ends c.receiver.forget
      c.stream.arrivals (Nat.le_add_right now c.timeout) (Horizon.reaches_none now)
    rw [ended]
    exact Option.some_ne_none _

namespace Run

/-- Two runs that have come to the same on channels that are alike. -/
structure Alike (one other : Run) : Prop where
  now : other.now = one.now
  ends : other.ends = one.ends
  journal : other.journal = one.journal
  channel : Channel.Alike one.now one.channel other.channel

variable {one other : Run}

theorem Alike.step (minimum : headerSize ≤ one.channel.limit) (alike : one.Alike other) (s : Step) :
    (one.step s).Alike (other.step s) := by
  obtain ⟨d, again, endsAgain, journalAgain⟩ := other
  obtain ⟨rfl, rfl, rfl, channel⟩ := alike
  dsimp only at channel
  cases s with
  | sleep span => exact ⟨rfl, rfl, rfl, channel.later (Nat.le_add_right _ span)⟩
  | close => exact ⟨rfl, rfl, rfl, { channel with met := channel.met }⟩
  | call request patience =>
    have watched := Horizon.reaches_patience one.now patience
    obtain ⟨ended, journaled, after⟩ := channel.call minimum watched request
    have leaves : LeftAt (patience.map (one.now + ·))
        (one.channel.call one.now (patience.map (one.now + ·)) request).ended
        (one.step (.call request patience)).now := by
      simp only [Run.step]
      cases found : (one.channel.call one.now (patience.map (one.now + ·)) request).ended with
      | some answer => exact .ended ..
      | none =>
        cases patience with
        | none => exact absurd found (one.channel.call_ended_ne_none one.now request)
        | some span => exact .cutOff rfl
    refine ⟨?_, ?_, ?_, after _ leaves⟩
    · simp only [Run.step, ended]
    · simp only [Run.step, ended]
    · simp only [Run.step, journaled]

theorem Alike.steps (minimum : headerSize ≤ one.channel.limit) (alike : one.Alike other)
    (steps : List Step) : (one.steps steps).Alike (other.steps steps) := by
  induction steps generalizing one other with
  | nil => exact alike
  | cons s steps inductionHypothesis =>
    have limit : (one.step s).channel.limit = one.channel.limit := by
      cases s with
      | sleep span => rfl
      | close => rfl
      | call request patience => exact one.channel.call_limit ..
    exact inductionHypothesis (limit ▸ minimum) (alike.step minimum s)

end Run

/-- Whatever state a channel is in, a call that was sent ends at the first instant from its start
to its deadline by which the signals that have come decide it: the next frame is whole, behind the
bytes left over from earlier calls, or the bytes before an end of the stream or a failure make no
whole frame.  An end is told as a closed connection, and so is a failure that says that the
connection is lost.  If nothing decides it, it ends at its deadline with a timeout.  It takes
nothing that is due later than it ends.  How the bytes that are due at the same instants are cut
makes no difference to it, or to anything that is done with the channel afterwards. -/
theorem ends_when_decided (c : Channel) (now : Nat) (minimum : headerSize ≤ c.limit) :
    (∀ (horizon : Horizon) (request : List UInt8), horizon.reaches now →
        (c.dispatch request).2.1 = none →
          let exchange := c.call now horizon request
          ∃ time reply, EndsAt c.decidedBy now (now + c.timeout) time reply
            ∧ exchange.ended = (if horizon.reaches time then some (time, reply) else none)
            ∧ (horizon.reaches time → ∃ taken,
                c.stream.arrivals = taken ++ exchange.after.stream.arrivals
                  ∧ ∀ a ∈ taken, a.due ≤ time))
      ∧ (∀ arrivals, schedule arrivals = schedule c.stream.arrivals → ∀ steps : List Step,
          let run := Run.steps { channel := c, now } steps
          let recut := Run.steps
            { channel := { c with stream := { c.stream with arrivals } }, now } steps
          recut.ends = run.ends ∧ recut.journal = run.journal ∧ recut.now = run.now)
      ∧ ∀ time reply, c.decidedBy time = some reply
          ↔ Decides c.limit c.receiver.skipping (c.metBy time) reply := by
  refine ⟨fun horizon request watched sent => ?_, fun arrivals same steps => ?_,
    fun time reply => decision?_eq_some_iff⟩
  · obtain ⟨time, reply, ends, ended⟩ := c.call_ends minimum watched sent
    refine ⟨time, reply, ends, ended, fun reached => ?_⟩
    rw [if_pos reached, (call_waited _ _ sent).1] at ended
    have leaves : LeftAt horizon (some (time, reply)) time := .ended time reply
    rw [← ended] at leaves
    obtain ⟨-, taken, takes⟩ := awaitFrame_takes (Nat.le_add_right now c.timeout) watched leaves
    refine ⟨taken, ?_, takes.due⟩
    rw [(call_waited _ _ sent).2.2.1]
    exact takes.split
  · have met (time : Nat) : signalsBy c.stream.ends arrivals time
        = signalsBy c.stream.ends c.stream.arrivals time := signalsBy_congr same
    have alike : Alike now c { c with stream := { c.stream with arrivals } } :=
      ⟨rfl, rfl, rfl, rfl, rfl, rfl, fun time _ => congrArg (_ ++ ·) (met time)⟩
    have runs : Run.Alike { channel := c, now }
        { channel := { c with stream := { c.stream with arrivals } }, now } :=
      ⟨rfl, rfl, rfl, alike⟩
    obtain ⟨instant, ends, journal, -⟩ := runs.steps minimum steps
    exact ⟨ends, journal, instant⟩

/-- A frame of five bytes, and a response whose last bytes come eight milliseconds after the
first frame.  Behind it the stream fails twice, after one more byte. -/
def trickle : ByteStream where
  arrivals := [⟨3, .ok [0x99, 3, 7]⟩, ⟨5, .ok [7, 7, 0x15]⟩, ⟨13, .ok [1, 0]⟩, ⟨15, .ok [0x15]⟩,
    ⟨17, .error ⟨.connectionReset, "connection reset"⟩⟩,
    ⟨20, .error ⟨.other, "no route to host"⟩⟩]

/-- The second of four calls with eight milliseconds each ends at its deadline, with the response,
also when the last two bytes come in reads of their own.  The third one loses the connection, and
the fourth one fails otherwise. -/
theorem ends_when_decided_trickle :
    let settings : ConnectionSettings := { requestTimeout := 8, maxFrameSize := 4 }
    let c := (Run.steps { channel := .over trickle settings, now := 0 } [.call [1] none]).channel
    let next := (c.call 5 none [1]).after
    let last := (next.call 13 none [1]).after
    let arrivals := ⟨13, .ok [1]⟩ :: ⟨13, .ok [0]⟩ :: trickle.arrivals.drop 3
    headerSize ≤ c.limit
      ∧ (c.call 5 none [1]).ended = some (13, .ok [0x15, 1, 0])
      ∧ (next.call 13 none [1]).ended = some (17, .error .connectionClosed)
      ∧ (last.call 17 none [1]).ended = some (20, .error (.io ⟨.other, "no route to host"⟩))
      ∧ (Run.steps { channel := { c with stream := { c.stream with arrivals } }, now := 5 }
          [.call [1] none]).ends = [some (13, .ok [0x15, 1, 0])] := by
  intro settings c next last arrivals
  have ended {d : Channel} {start time : Nat} {signals : List Signal} {reply : Reply}
      (limit : d.limit = 4) (onBoundary : d.receiver.skipping = 0)
      (sent : (d.dispatch [1]).2.1 = none) (inTime : start ≤ time ∧ time ≤ start + d.timeout)
      (met : d.metBy time = signals) (decides : Decides 4 0 signals reply)
      (silent : ∀ earlier < time, start ≤ earlier → d.decidedBy earlier = none) :
      (d.call start none [1]).ended = some (time, reply) := by
    obtain ⟨calls, -, decisions⟩ := ends_when_decided d start (by rw [limit]; decide)
    obtain ⟨instant, answer, ends, ended, -⟩ := calls none [1] rfl sent
    rw [limit, onBoundary] at decisions
    have decided : EndsAt d.decidedBy start (start + d.timeout) time reply :=
      .decided inTime.1 inTime.2 ((decisions time reply).mpr (met ▸ decides))
        fun earlier from_start early => silent earlier early from_start
    obtain ⟨rfl, rfl⟩ := decided.unique ends
    exact ended
  have unfinished : ∀ f : Frame, ¬f.bytes <+: [0x15] := Frame.front?_eq_none_iff.mp rfl
  have minimum : headerSize ≤ c.limit := by decide
  obtain ⟨-, recut, -⟩ := ends_when_decided c 5 minimum
  have nextIs : next = {
      stream := { trickle with arrivals := trickle.arrivals.drop 3 }
      timeout := 8
      limit := 4 } := rfl
  have lastIs : last = {
      stream := { trickle with arrivals := trickle.arrivals.drop 5 }
      timeout := 8
      limit := 4
      receiver := { buffer := [0x15] } } :=
    congrArg (fun d : Channel => (d.call 13 none [1]).after) nextIs
  refine ⟨minimum, ?_, nextIs ▸ ?_, lastIs ▸ ?_, (recut arrivals rfl [.call [1] none]).1⟩
  · have decides : Decides 4 0 ([0x15, 1, 0].map .byte ++ []) (.ok [0x15, 1, 0]) :=
      @Decides.frame 4 0 [] ⟨0x15, [0], by decide⟩ [] rfl
    exact ended rfl rfl rfl (by decide) rfl decides (by decide)
  · have decides : Decides 4 0 ([0x15].map .byte
        ++ [.failure ⟨.connectionReset, "connection reset"⟩]) (.error .connectionClosed) :=
      .failed unfinished
    exact ended rfl rfl rfl (by decide) rfl decides (by decide)
  · have decides : Decides 4 0 ([0x15].map .byte ++ [.failure ⟨.other, "no route to host"⟩])
        (.error (.io ⟨.other, "no route to host"⟩)) :=
      .failed unfinished
    exact ended rfl rfl rfl (by decide) rfl decides (by decide)

end Channel

end ThingLink
