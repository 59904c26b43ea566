import ThingLink.Proofs.Link.Backlog
import ThingLink.Proofs.Link.Calls

/-!
# The turns of the frames

The frames of a stream come to the calls of a channel in turn.  A call that was sent makes one
look at what it has received, and this look settles the frame that is next, leaves an oversized
one behind, or waits for more.  What carries from one call to the next is where the channel
stands: how many bytes it has received, and which frame its buffer goes on with once the rest
of a skipped frame has gone by.
-/

namespace ThingLink

/-! ## Rows of frames -/

namespace Frame

/-- Where a frame starts, in a row of frames that is laid end to end. -/
def startIn (frames : List Frame) (n : Nat) : Nat :=
  ((frames.take n).flatMap bytes).length

/-- How many bytes of a frame have to be received before a look goes past it: an oversized
frame is passed as soon as its header is there. -/
def due (limit : Nat) (f : Frame) : Nat :=
  if f.size ≤ limit then f.size else headerSize

theorem startIn_succ {frames : List Frame} {n : Nat} {f : Frame} (next : frames[n]? = some f) :
    startIn frames (n + 1) = startIn frames n + f.size := by
  rw [startIn, List.take_add_one, next, List.flatMap_append, List.length_append]
  simp [startIn, size]

theorem size_eq_payload (f : Frame) : f.size = headerSize + f.payload.length := by
  rw [f.size_eq, Header.frameSize, header, f.toNat_ofNat_length]

theorem headerSize_le_due (limit : Nat) (f : Frame) : headerSize ≤ f.due limit := by
  unfold due
  split
  · rw [f.size_eq_payload]
    exact Nat.le_add_right ..
  · exact Nat.le_refl _

/-- A header that is ahead in a row of frames is the header of the next one. -/
theorem exists_of_header_ahead {frames : List Frame} {n : Nat} {tag length : UInt8}
    {rest : List UInt8} (ahead : tag :: length :: rest <+: (frames.drop n).flatMap bytes) :
    ∃ f, frames[n]? = some f
      ∧ f.bytes = tag :: length :: f.payload
      ∧ length.toNat = f.payload.length
      ∧ rest <+: f.payload ++ (frames.drop (n + 1)).flatMap bytes := by
  cases remaining : frames.drop n with
  | nil =>
    rw [remaining] at ahead
    exact absurd ahead.length_le (Nat.not_succ_le_zero _)
  | cons f later =>
    have next : frames[n]? = some f := by
      rw [← List.head?_drop, remaining, List.head?_cons]
    have others : frames.drop (n + 1) = later := by
      rw [← List.tail_drop, remaining, List.tail_cons]
    rw [remaining, List.flatMap_cons, bytes, List.cons_append, List.cons_append,
      List.cons_prefix_cons, List.cons_prefix_cons] at ahead
    obtain ⟨rfl, rfl, payload⟩ := ahead
    rw [others]
    exact ⟨f, next, rfl, f.toNat_ofNat_length, payload⟩

end Frame

open ThingLink.Frame (startIn)

/-! ## One look -/

/-- What a look makes of the frame that is next when so many bytes have been received, and
which frame is next after it. -/
inductive Turn (limit : Nat) (frames : List Frame) (received n : Nat) :
    Option Reply → Nat → Prop where
  | settled {f : Frame} (next : frames[n]? = some f)
      (whole : startIn frames n + f.size ≤ received) :
      Turn limit frames received n (some (f.verdict limit)) (n + 1)
  | leftBehind {f : Frame} (next : frames[n]? = some f) (large : limit < f.size)
      (header : startIn frames n + headerSize ≤ received)
      (part : received < startIn frames n + f.size) :
      Turn limit frames received n none (n + 1)
  | waiting (few : ∀ f, frames[n]? = some f → received < startIn frames n + f.due limit) :
      Turn limit frames received n none n

namespace Receiver

/-- Where a receiver is in a row of frames: behind the bytes that it has still to skip, its
buffer goes on with the frame that is next, and the stream goes on with the buffer. -/
structure Standing (frames : List Frame) (future : List UInt8) (received n : Nat)
    (r : Receiver) : Prop where
  ahead : (r.buffer ++ future).drop r.skipping <+: (frames.drop n).flatMap Frame.bytes
  position : startIn frames n + r.buffer.length = received + r.skipping

theorem drop_drop_append (xs ys : List UInt8) (n : Nat) :
    (xs.drop n ++ ys).drop (n - xs.length) = (xs ++ ys).drop n := by
  rcases Nat.le_total n xs.length with few | many
  · rw [Nat.sub_eq_zero_of_le few, List.drop_zero, List.drop_append_of_le_length few]
  · rw [List.drop_of_length_le many, List.nil_append, List.drop_append,
      List.drop_of_length_le many, List.nil_append]

/-- A look that goes past a frame leaves the receiver in front of the one after it, with as
many bytes to skip as are missing. -/
theorem Standing.past {frames : List Frame} {future rest : List UInt8} {received n : Nat}
    {f : Frame} (noted : Option Nat) (next : frames[n]? = some f)
    (payload : rest ++ future <+: f.payload ++ (frames.drop (n + 1)).flatMap Frame.bytes)
    (position : startIn frames n + (headerSize + rest.length) = received) :
    Standing frames future received (n + 1)
      ⟨rest.drop f.payload.length, f.payload.length - rest.length, noted⟩ where
  ahead := by
    obtain ⟨unseen, split⟩ := payload
    have behind := congrArg (List.drop f.payload.length) split
    rw [List.drop_left, List.drop_append] at behind
    exact ⟨_, (congrArg (· ++ _) (drop_drop_append rest future f.payload.length)).trans behind⟩
  position := by
    have sized := f.size_eq_payload
    dsimp only
    rw [Frame.startIn_succ next, List.length_drop]
    omega

theorem take_payload {rest future more : List UInt8} {f : Frame}
    (payload : rest ++ future <+: f.payload ++ more) (whole : f.payload.length ≤ rest.length) :
    rest.take f.payload.length = f.payload := by
  obtain ⟨unseen, split⟩ := payload
  have front := congrArg (List.take f.payload.length) split
  rwa [List.take_left, List.append_assoc, List.take_append_of_le_length whole] at front

/-- A receiver with a header in front stands before a frame that begins with it. -/
theorem Standing.exists_next {frames : List Frame} {future rest : List UInt8} {received n : Nat}
    {tag length : UInt8} {noted : Option Nat}
    (standing : Standing frames future received n ⟨tag :: length :: rest, 0, noted⟩) :
    ∃ f, frames[n]? = some f
      ∧ f.bytes = tag :: length :: f.payload
      ∧ f.size = (Header.mk tag length).frameSize
      ∧ length.toNat = f.payload.length
      ∧ rest ++ future <+: f.payload ++ (frames.drop (n + 1)).flatMap Frame.bytes
      ∧ startIn frames n + (headerSize + rest.length) = received := by
  obtain ⟨f, next, bytes, width, payload⟩ := Frame.exists_of_header_ahead standing.ahead
  have position := standing.position
  simp only [List.length_cons] at position
  refine ⟨f, next, bytes, ?_, width, payload, ?_⟩
  · rw [Header.frameSize, width, f.size_eq_payload]
  · rw [headerSize]
    omega

section Looks

variable {limit received n : Nat} {frames : List Frame} {future : List UInt8}

theorem takeFrom_turn {bs : List UInt8} (minimum : headerSize ≤ limit)
    (standing : Standing frames future received n ⟨bs, 0, none⟩) :
    ∃ next, Turn limit frames received n ((takeFrom limit none bs).1.reply? limit) next
      ∧ Standing frames future received next (takeFrom limit none bs).2 := by
  have look := takeFrom_look limit none bs
  generalize takeFrom limit none bs = result at look ⊢
  cases look with
  | short few =>
    refine ⟨n, .waiting fun f next => ?_, standing⟩
    have position := standing.position
    have := f.headerSize_le_due limit
    dsimp only at position
    omega
  | cut fits few =>
    obtain ⟨f, next, -, sized, width, -, position⟩ := standing.exists_next
    refine ⟨n, .waiting fun g same => ?_, standing⟩
    obtain rfl := Option.some.inj (next.symm.trans same)
    rw [← sized] at fits
    have := f.size_eq_payload
    rw [Frame.due, if_pos fits]
    omega
  | frame fits whole =>
    obtain ⟨f, next, bytes, sized, width, payload, position⟩ := standing.exists_next
    rw [← sized] at fits
    rw [width] at whole ⊢
    have past := Standing.past none next payload position
    rw [Nat.sub_eq_zero_of_le whole] at past
    have measured := f.size_eq_payload
    have verdict : f.verdict limit = .ok f.bytes := if_pos fits
    rw [take_payload payload whole, ← bytes, Found.reply?, ← verdict]
    exact ⟨n + 1, .settled next (by omega), past⟩
  | bare large empty further => exact absurd empty (nonempty_of_large minimum large)
  | skipped large few =>
    obtain ⟨f, next, -, sized, width, payload, position⟩ := standing.exists_next
    rw [← sized] at large ⊢
    rw [width] at few ⊢
    have past := Standing.past (some f.size) next payload position
    rw [List.drop_of_length_le (Nat.le_of_lt few)] at past
    have measured := f.size_eq_payload
    exact ⟨n + 1, .leftBehind next large (by omega) (by omega), past⟩
  | tooLarge large nonempty whole =>
    obtain ⟨f, next, -, sized, width, payload, position⟩ := standing.exists_next
    rw [← sized] at large ⊢
    rw [width] at whole ⊢
    have past := Standing.past none next payload position
    rw [Nat.sub_eq_zero_of_le whole] at past
    have measured := f.size_eq_payload
    have verdict : f.verdict limit = .error (.frameTooLarge f.size limit) :=
      if_neg (Nat.not_le.mpr large)
    rw [Found.reply?, ← verdict]
    exact ⟨n + 1, .settled next (by omega), past⟩

theorem take_turn {r : Receiver} (minimum : headerSize ≤ limit) (forgotten : r.oversized = none)
    (standing : Standing frames future received n r) :
    ∃ next, Turn limit frames received n ((r.take limit).1.reply? limit) next
      ∧ Standing frames future received next (r.take limit).2 := by
  obtain ⟨buffer, skipping, noted⟩ := r
  cases forgotten
  obtain ⟨ahead, position⟩ := standing
  dsimp only at ahead position
  -- either the skipped frame is still incomplete, or the look starts behind it
  by_cases few : buffer.length < skipping
  · rw [take_skipped few]
    refine ⟨n, .waiting fun f next => by omega, ?_, ?_⟩
    · rw [List.drop_append, List.drop_of_length_le (Nat.le_of_lt few)] at ahead
      exact ahead
    · dsimp only [List.length_nil]
      omega
  · have enough : skipping ≤ buffer.length := Nat.not_lt.mp few
    rw [take_leftBehind enough]
    rw [List.drop_append_of_le_length enough] at ahead
    refine takeFrom_turn minimum ⟨ahead, ?_⟩
    dsimp only
    rw [List.length_drop]
    omega

end Looks

end Receiver

/-! ## One call -/

namespace Channel

/-- How many bytes of a stream a channel has received. -/
def received (stream : ByteStream) (c : Channel) : Nat :=
  (arrivedBytes stream.arrivals).length - (arrivedBytes c.stream.arrivals).length

/-- A channel that has come so far in a stream of frames. -/
structure Standing (stream : ByteStream) (frames : List Frame) (limit n : Nat) (c : Channel) :
    Prop where
  limited : c.limit = limit
  receiver : c.receiver.Standing frames (arrivedBytes c.stream.arrivals) (c.received stream) n
  behind : c.stream.arrivals <:+ stream.arrivals

/-- What a channel does with incoming frames depends on nothing else. -/
structure Continues (d c : Channel) : Prop where
  limit : d.limit = c.limit
  receiver : d.receiver = c.receiver
  arrivals : d.stream.arrivals = c.stream.arrivals

theorem received_of_suffix {stream : ByteStream} {c : Channel} {taken : List Arrival}
    (split : taken ++ c.stream.arrivals = stream.arrivals) :
    c.received stream = (arrivedBytes taken).length := by
  rw [received, ← split, arrivedBytes_append, List.length_append, Nat.add_sub_cancel_right]

namespace Standing

variable {stream : ByteStream} {frames : List Frame} {limit n : Nat} {c d : Channel}

theorem start {settings : ConnectionSettings}
    (incoming : arrivedBytes stream.arrivals <+: frames.flatMap Frame.bytes) :
    (Channel.over stream settings).Standing stream frames settings.maxFrameSize 0 where
  limited := rfl
  receiver := ⟨incoming, (Nat.sub_self _).symm⟩
  behind := List.suffix_rfl

theorem continues (standing : c.Standing stream frames limit n) (same : d.Continues c) :
    d.Standing stream frames limit n where
  limited := same.limit.trans standing.limited
  receiver := by
    rw [received, same.receiver, same.arrivals]
    exact standing.receiver
  behind := same.arrivals ▸ standing.behind

/-- A channel that receives some arrivals and looks at them once. -/
theorem look (minimum : headerSize ≤ limit) (taken : List Arrival)
    (standing : c.Standing stream frames limit n)
    (limited : d.limit = c.limit)
    (arrivals : c.stream.arrivals = taken ++ d.stream.arrivals)
    (receiver : d.receiver = ((c.receiver.forget.receive (arrivedBytes taken)).take limit).2) :
    ∃ next,
      Turn limit frames (d.received stream) n
          (((c.receiver.forget.receive (arrivedBytes taken)).take limit).1.reply? limit) next
        ∧ d.Standing stream frames limit next := by
  obtain ⟨rfl, standing, earlier, split⟩ := standing
  have together : (earlier ++ taken) ++ d.stream.arrivals = stream.arrivals := by
    rw [List.append_assoc, ← arrivals, split]
  have grown : Receiver.Standing frames (arrivedBytes d.stream.arrivals) (d.received stream) n
      (c.receiver.forget.receive (arrivedBytes taken)) := by
    obtain ⟨ahead, position⟩ := standing
    rw [received_of_suffix split] at position
    rw [arrivals, arrivedBytes_append, ← List.append_assoc] at ahead
    refine ⟨ahead, ?_⟩
    rw [received_of_suffix together, arrivedBytes_append]
    simp only [Receiver.receive, Receiver.forget, List.length_append]
    omega
  obtain ⟨next, turn, after⟩ := Receiver.take_turn minimum rfl grown
  refine ⟨next, turn, limited, ?_, _, together⟩
  rw [receiver]
  exact after

end Standing

end Channel

namespace Call

/-- Whether the whole request was written and flushed, so that a reply is waited for. -/
def sent (call : Call Channel) : Bool :=
  (call.before.dispatch call.request).2.1.isNone

/-- What a call makes of the frame that is next when it begins, and which frame is next after
it.  A request that was not sent leaves the frames alone. -/
inductive Turn (stream : ByteStream) (frames : List Frame) (limit n : Nat) (call : Call Channel) :
    Nat → Prop where
  | unsent (failed : call.sent = false) (unanswered : Unanswered call.reply?) :
      Turn stream frames limit n call n
  | looked {found : Option Reply} {next : Nat} (sent : call.sent = true)
      (turn : ThingLink.Turn limit frames (call.after.received stream) n found next)
      (concluded : Concluded found call.reply?) : Turn stream frames limit n call next

theorem exchange_eq (call : Call Channel) :
    call.exchange = call.before.call call.start call.horizon call.request :=
  rfl

/-- A call that was sent receives some arrivals and comes to one look at them. -/
theorem looked_of_sent {call : Call Channel} (sent : call.sent = true) :
    ∃ taken,
      let look := (call.before.receiver.forget.receive (arrivedBytes taken)).take call.before.limit
      call.before.stream.arrivals = taken ++ call.after.stream.arrivals
        ∧ call.after.limit = call.before.limit
        ∧ call.after.receiver = look.2
        ∧ Concluded (look.1.reply? call.before.limit) call.reply? := by
  have outcome : (call.before.dispatch call.request).2.1 = none := Option.isNone_iff_eq_none.mp sent
  have exchange := call.exchange_eq.trans (Channel.call_of_success outcome)
  simp only [Channel.dispatch_receiver, Channel.dispatch_arrivals, Channel.dispatch_limit]
    at exchange
  obtain ⟨taken, split, looked⟩ := awaitFrame_looked call.before.limit
    (call.start + (call.before.dispatch call.request).2.2.timeout) call.horizon
    (call.before.dispatch call.request).2.2.stream.ends call.before.stream.arrivals call.start
    call.before.receiver.forget
  rw [after, reply?, ended, exchange]
  exact ⟨taken, split, rfl, looked.receiver, looked.concluded⟩

/-- A call takes its turn at the frame that is next, and leaves the channel in front of the
frame that is next after it. -/
theorem turn_of_standing {stream : ByteStream} {frames : List Frame} {limit n : Nat}
    {call : Call Channel} (minimum : headerSize ≤ limit)
    (standing : call.before.Standing stream frames limit n) :
    ∃ next, call.Turn stream frames limit n next
      ∧ call.after.Standing stream frames limit next := by
  cases outcome : (call.before.dispatch call.request).2.1 with
  | some e =>
    have exchange := call.exchange_eq.trans (Channel.call_of_failure outcome)
    have forgotten : Channel.Standing stream frames limit n
        { call.before with receiver := call.before.receiver.forget } :=
      ⟨standing.limited, ⟨standing.receiver.ahead, standing.receiver.position⟩, standing.behind⟩
    refine ⟨n, .unsent (by simp [sent, outcome]) ?_, forgotten.continues ?_⟩
    · rw [reply?, ended, exchange]
      exact .ofIo e
    · rw [after, exchange]
      exact ⟨call.before.dispatch_limit call.request, call.before.dispatch_receiver call.request,
        call.before.dispatch_arrivals call.request⟩
  | none =>
    have sent : call.sent = true := Option.isNone_iff_eq_none.mpr outcome
    obtain ⟨taken, arrivals, same, receiver, concluded⟩ := looked_of_sent sent
    rw [standing.limited] at receiver concluded
    obtain ⟨next, turn, standing⟩ := standing.look minimum taken same arrivals receiver
    exact ⟨next, .looked sent turn concluded, standing⟩

/-- A call that ends with an answer ends with what one look has settled, by a receiver that has
forgotten what it had noted for an earlier call. -/
theorem exists_settled {call : Call Channel} {reply : Reply} (replied : call.reply? = some reply)
    (answered : ¬Unanswered (some reply)) :
    ∃ r : Receiver,
      (r.forget.take call.before.limit).1.reply? call.before.limit = some reply := by
  cases outcome : (call.before.dispatch call.request).2.1 with
  | some e =>
    have exchange := call.exchange_eq.trans (Channel.call_of_failure outcome)
    rw [reply?, ended, exchange] at replied
    cases replied
    exact absurd (.ofIo e) answered
  | none =>
    obtain ⟨taken, -, -, -, concluded⟩ := looked_of_sent (Option.isNone_iff_eq_none.mpr outcome)
    rw [replied] at concluded
    exact ⟨call.before.receiver.receive (arrivedBytes taken),
      concluded.eq_some_of_answered answered⟩

/-- Only a channel whose limit has room for a header returns a frame. -/
theorem headerSize_le_limit {call : Call Channel} {bytes : List UInt8}
    (replied : call.reply? = some (.ok bytes)) : headerSize ≤ call.before.limit := by
  obtain ⟨r, settled⟩ := exists_settled replied (not_unanswered_ok bytes)
  exact Receiver.headerSize_le_of_frame (Found.reply?_eq_ok_iff.mp settled)

end Call

end ThingLink
