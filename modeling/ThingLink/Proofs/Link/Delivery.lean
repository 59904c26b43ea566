import Mathlib.Data.List.Basic
import Mathlib.Data.List.TakeWhile
import ThingLink.Proofs.Link.Deadline

/-!
# Replies delivered in time

What a call comes to by an instant is not changed by what comes later.  A frame that a stream has
delivered by the deadline of the first call on it is therefore what the call ends with, early or
late, whatever the stream brings behind it.
-/

namespace ThingLink

/-! ## Decisions are final -/

theorem signals_of_no_mark : ∀ signals : List Signal, markError? signals = none →
    signals = (leadingBytes signals).map .byte
  | [], _ => rfl
  | .byte b :: rest, unmarked => congrArg (.byte b :: ·) (signals_of_no_mark rest unmarked)
  | .failure _ :: _, unmarked => nomatch unmarked
  | .pause :: _, unmarked => nomatch unmarked
  | .over :: _, unmarked => nomatch unmarked

/-- Behind a mark nothing counts. -/
theorem leadingBytes_of_mark {e : CallError} (more : List Signal) :
    ∀ signals : List Signal, markError? signals = some e →
      leadingBytes (signals ++ more) = leadingBytes signals
        ∧ markError? (signals ++ more) = some e
  | [], marked => nomatch marked
  | .byte b :: rest, marked => by
    obtain ⟨bytes, mark⟩ := leadingBytes_of_mark more rest marked
    exact ⟨congrArg (b :: ·) bytes, mark⟩
  | .failure _ :: _, marked => ⟨rfl, marked⟩
  | .pause :: _, marked => ⟨rfl, marked⟩
  | .over :: _, marked => ⟨rfl, marked⟩

theorem Receiver.decision?_append {limit : Nat} {r : Receiver} {signals : List Signal}
    {reply : Reply} (decided : r.decision? limit signals = some reply) (more : List Signal) :
    r.decision? limit (signals ++ more) = some reply := by
  cases mark : markError? signals with
  | some e =>
    obtain ⟨bytes, marked⟩ := leadingBytes_of_mark more _ mark
    rw [decision?, mark] at decided
    rw [decision?, bytes, marked]
    exact decided
  | none =>
    -- without a mark, only a look can have decided
    rw [decision?, mark, Option.map_none, Option.or_none] at decided
    rw [signals_of_no_mark _ mark, decision?, leadingBytes_append, ← receive_receive,
      take_receive_settled _ decided, decided]
    rfl

theorem signalsBy_mono (ends : Bool) (arrivals : List Arrival) {earlier later : Nat}
    (order : earlier ≤ later) :
    signalsBy ends arrivals earlier <+: signalsBy ends arrivals later := by
  simp only [signalsBy]
  generalize schedule arrivals ++ (if ends then [(0, .over)] else []) = stamped
  have both : (stamped.takeWhile (·.1 ≤ earlier))
      = (stamped.takeWhile (·.1 ≤ later)).takeWhile (·.1 ≤ earlier) := by
    rw [List.takeWhile_takeWhile]
    congr 1
    funext s
    have : s.1 ≤ earlier → s.1 ≤ later := fun soon => Nat.le_trans soon order
    simpa using this
  rw [both]
  exact (List.takeWhile_prefix _).map Prod.snd

namespace Channel

variable {c : Channel} {now : Nat} {horizon : Horizon} {request : List UInt8} {reply : Reply}

/-- A call whose deadline finds it decided has ended with this decision by then. -/
theorem call_ended_of_decided (sent : (c.dispatch request).2.1 = none)
    (watched : horizon.reaches (now + c.timeout))
    (decided : c.receiver.forget.decision? c.limit
      (signalsBy c.stream.ends c.stream.arrivals (now + c.timeout)) = some reply) :
    ∃ time, now ≤ time ∧ time ≤ now + c.timeout
      ∧ (c.call now horizon request).ended = some (time, reply) := by
  have soon := Nat.le_add_right now c.timeout
  have begun : horizon.reaches now := Horizon.reaches_of_le soon watched
  obtain ⟨time, ending, ends, ended⟩ := awaitFrame_ends c.limit c.stream.ends c.receiver.forget
    c.stream.arrivals soon begun
  rw [← (call_waited now horizon sent).1] at ended
  cases ends with
  | decided notBefore notAfter decides first =>
    obtain ⟨more, split⟩ := signalsBy_mono c.stream.ends c.stream.arrivals notAfter
    have same := Receiver.decision?_append decides more
    rw [split, decided] at same
    rw [if_pos (Horizon.reaches_of_le notAfter watched), ← Option.some.inj same] at ended
    exact ⟨time, notBefore, notAfter, ended⟩
  | expired never => exact nomatch decided.symm.trans (never _ soon (Nat.le_refl _))

end Channel

/-! ## Deliveries -/

/-- Some bytes are the first thing that a stream brings, and all of them have come by an
instant. -/
def ByteStream.Delivers (stream : ByteStream) (bytes : List UInt8) (time : Nat) : Prop :=
  bytes <+: leadingBytes (signalsBy stream.ends stream.arrivals time)

theorem Arrival.Ready.signals {now : Nat} {a : Arrival} (ready : a.Ready now) :
    a.signals = a.bytes.map .byte := by
  have nonempty := ready.nonempty
  unfold Arrival.bytes at nonempty ⊢
  unfold Arrival.signals
  split
  · next e failed => simp [failed] at nonempty
  · next ended => simp [ended] at nonempty
  · next bytes _ brings => rw [brings]

/-- A stream delivers what its first arrivals bring when they are all ready. -/
theorem ByteStream.delivers_of_ready {stream : ByteStream} {first later : List Arrival} {time : Nat}
    (split : stream.arrivals = first ++ later) (ready : ∀ a ∈ first, a.Ready time) :
    stream.Delivers (arrivedBytes first) time := by
  have signals : first.flatMap Arrival.signals = (arrivedBytes first).map .byte := by
    rw [arrivedBytes, List.map_flatMap]
    exact List.flatMap_congr fun a member => (ready a member).signals
  rw [Delivers, split, signalsBy_append fun a member => (ready a member).due, signals,
    leadingBytes_append]
  exact List.prefix_append ..

/-- The first call on a stream ends with the verdict on the frame that is delivered in time. -/
theorem Channel.call_delivered {stream : ByteStream} {settings : ConnectionSettings} {f : Frame}
    {now : Nat} {horizon : Horizon} {request : List UInt8}
    (minimum : headerSize ≤ settings.maxFrameSize)
    (sent : ((Channel.over stream settings).dispatch request).2.1 = none)
    (watched : horizon.reaches (now + settings.requestTimeout))
    (delivered : stream.Delivers f.bytes (now + settings.requestTimeout)) :
    ∃ time, now ≤ time ∧ time ≤ now + settings.requestTimeout
      ∧ ((Channel.over stream settings).call now horizon request).ended
        = some (time, f.verdict settings.maxFrameSize) := by
  refine call_ended_of_decided sent watched ((decision?_forget minimum _).trans ?_)
  obtain ⟨rest, split⟩ := delivered
  have front : Frame.front? (leadingBytes ((Channel.over stream settings).metBy
      (now + settings.requestTimeout))) = some f :=
    Frame.front?_eq_some_iff.mpr ⟨rest, split.symm⟩
  exact congrArg (Option.or · _) (congrArg (Option.map _) front)

end ThingLink
