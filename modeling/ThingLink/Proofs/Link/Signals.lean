import Mathlib.Data.Nat.Find
import ThingLink.Proofs.Link.Backlog

/-!
# Signals

What a stream brings, taken apart into single bytes and marks, so that nothing is left of how
the bytes were cut into reads.  The signals that have come by an instant may decide a wait: a
whole frame does, and so does a mark behind bytes that make no whole frame.  `EndsAt` says when
a wait is over by such decisions alone, and `awaitFrame_ends` that waits follow it.
-/

namespace ThingLink

/-! ## What comes by an instant -/

/-- One thing that a stream brings: a byte, or a mark behind some bytes. -/
inductive Signal where
  | byte (b : UInt8)
  | failure (e : IoError)
  /-- An end of the stream that is met once. -/
  | pause
  /-- The end of the stream for good. -/
  | over
  deriving DecidableEq

def Arrival.signals (a : Arrival) : List Signal :=
  match a.content with
  | .error e => [.failure e]
  | .ok [] => [.pause]
  | .ok bytes => bytes.map .byte

/-- The signals of some arrivals, each with the instant it is due at. -/
def schedule (arrivals : List Arrival) : List (Nat × Signal) :=
  arrivals.flatMap fun a => a.signals.map fun signal => (a.due, signal)

/-- The signals that have come by an instant, when all earlier ones have come as well. -/
def signalsBy (ends : Bool) (arrivals : List Arrival) (time : Nat) : List Signal :=
  let last : List (Nat × Signal) := if ends then [(0, .over)] else []
  ((schedule arrivals ++ last).takeWhile (·.1 ≤ time)).map Prod.snd

theorem Arrival.signals_ne_nil (a : Arrival) : a.signals ≠ [] := by
  unfold signals
  split
  · exact List.cons_ne_nil _ _
  · exact List.cons_ne_nil _ _
  · next nonempty _ => simpa using nonempty

section Schedules

variable {ends : Bool} {next : Arrival} {rest taken : List Arrival} {time : Nat}

theorem signalsBy_congr {others arrivals : List Arrival}
    (same : schedule others = schedule arrivals) :
    signalsBy ends others time = signalsBy ends arrivals time := by
  rw [signalsBy, same, signalsBy]

theorem signalsBy_nil : signalsBy ends [] time = if ends then [.over] else [] := by
  cases ends <;> simp [signalsBy, schedule]

theorem signalsBy_of_due (due : next.due ≤ time) :
    signalsBy ends (next :: rest) time = next.signals ++ signalsBy ends rest time := by
  have front : ∀ stamped ∈ next.signals.map fun signal => (next.due, signal),
      decide (stamped.1 ≤ time) = true := by
    simp [due]
  rw [signalsBy, schedule, List.flatMap_cons, List.append_assoc,
    List.takeWhile_append_of_pos front, List.map_append, List.map_map]
  simp [signalsBy, schedule, Function.comp_def]

theorem signalsBy_of_later (later : time < next.due) : signalsBy ends (next :: rest) time = [] := by
  obtain ⟨first, others, signals⟩ := List.exists_cons_of_ne_nil next.signals_ne_nil
  have early : ¬next.due ≤ time := Nat.not_le.mpr later
  simp [signalsBy, schedule, signals, early]

theorem signalsBy_append (due : ∀ a ∈ taken, a.due ≤ time) :
    signalsBy ends (taken ++ rest) time
      = taken.flatMap Arrival.signals ++ signalsBy ends rest time := by
  induction taken with
  | nil => rfl
  | cons next taken inductionHypothesis =>
    rw [List.cons_append, signalsBy_of_due (due next List.mem_cons_self),
      inductionHypothesis fun a member => due a (List.mem_cons_of_mem next member),
      List.flatMap_cons, List.append_assoc]

end Schedules

/-! ## What signals decide -/

/-- The bytes in front of the first mark. -/
def leadingBytes : List Signal → List UInt8
  | .byte b :: rest => b :: leadingBytes rest
  | _ => []

/-- What a call fails with at the first mark. -/
def markError? : List Signal → Option CallError
  | [] => none
  | .byte _ :: rest => markError? rest
  | .failure e :: _ => some (.ofIo e)
  | .pause :: _ | .over :: _ => some .connectionClosed

/-- How many signals are used up when everything is read to the first mark; the end of the
stream for good stays. -/
def usedUp : List Signal → Nat
  | .byte _ :: rest => usedUp rest + 1
  | .failure _ :: _ | .pause :: _ => 1
  | .over :: _ | [] => 0

@[simp] theorem leadingBytes_nil : leadingBytes [] = [] :=
  rfl

section Bytes

variable (bs : List UInt8) (signals : List Signal)

@[simp] theorem leadingBytes_append :
    leadingBytes (bs.map .byte ++ signals) = bs ++ leadingBytes signals := by
  induction bs with
  | nil => rfl
  | cons b bs inductionHypothesis => exact congrArg (b :: ·) inductionHypothesis

@[simp] theorem markError?_append :
    markError? (bs.map .byte ++ signals) = markError? signals := by
  induction bs with
  | nil => rfl
  | cons b bs inductionHypothesis => exact inductionHypothesis

@[simp] theorem usedUp_append :
    usedUp (bs.map .byte ++ signals) = bs.length + usedUp signals := by
  induction bs with
  | nil => exact (Nat.zero_add _).symm
  | cons b bs inductionHypothesis =>
    simp only [List.map_cons, List.cons_append, usedUp, inductionHypothesis, List.length_cons]
    omega

end Bytes

/-- The frame at the front of some bytes, once it is there as a whole. -/
def Frame.front? : List UInt8 → Option Frame
  | tag :: length :: rest =>
      if length.toNat ≤ rest.length then
        some ⟨tag, rest.take length.toNat, by
          have := length.toNat_lt
          rw [List.length_take, maxPayload]
          omega⟩
      else none
  | _ => none

/-- What a call comes to by the signals that it has met, if they decide it: the verdict on the
next frame, and if that is not whole the failure at the first mark.  The first `skipping` bytes
belong to a frame that an earlier call has left behind. -/
def decision? (limit skipping : Nat) (signals : List Signal) : Option Reply :=
  ((Frame.front? ((leadingBytes signals).drop skipping)).map (Frame.verdict limit)).or
    ((markError? signals).map .error)

/-! ## The end of a wait -/

/-- When a wait ends, and with which reply: at the first instant by which something is decided,
or at the last one if nothing is. -/
inductive EndsAt (known : Nat → Option Reply) (start last : Nat) : Nat → Reply → Prop where
  | decided {time : Nat} {reply : Reply} (notBefore : start ≤ time) (notAfter : time ≤ last)
      (decides : known time = some reply)
      (first : ∀ earlier, start ≤ earlier → earlier < time → known earlier = none) :
      EndsAt known start last time reply
  | expired (never : ∀ time, start ≤ time → time ≤ last → known time = none) :
      EndsAt known start last last (.error .timeout)

namespace EndsAt

variable {known others : Nat → Option Reply} {start last time due : Nat} {reply : Reply}

theorem exists_end (known : Nat → Option Reply) (start last : Nat) :
    ∃ time reply, EndsAt known start last time reply := by
  by_cases decides : ∃ time, start ≤ time ∧ time ≤ last ∧ (known time).isSome
  · obtain ⟨notBefore, notAfter, found⟩ := Nat.find_spec decides
    obtain ⟨reply, found⟩ := Option.isSome_iff_exists.mp found
    refine ⟨_, reply, .decided notBefore notAfter found fun earlier from_start before => ?_⟩
    have undecided := Nat.find_min decides before
    refine Option.not_isSome_iff_eq_none.mp fun found => undecided ⟨from_start, ?_, found⟩
    exact Nat.le_trans (Nat.le_of_lt before) notAfter
  · refine ⟨last, _, .expired fun time notBefore notAfter => ?_⟩
    exact Option.not_isSome_iff_eq_none.mp fun found => decides ⟨time, notBefore, notAfter, found⟩

theorem unique {again : Nat} {other : Reply} (one : EndsAt known start last time reply)
    (two : EndsAt known start last again other) : again = time ∧ other = reply := by
  cases one with
  | decided notBefore notAfter decides first =>
    cases two with
    | decided notBefore' notAfter' decides' first' =>
      rcases Nat.lt_trichotomy again time with before | rfl | after
      · exact nomatch decides'.symm.trans (first _ notBefore' before)
      · exact ⟨rfl, Option.some.inj (decides'.symm.trans decides)⟩
      · exact nomatch decides.symm.trans (first' _ notBefore after)
    | expired never => exact nomatch decides.symm.trans (never _ notBefore notAfter)
  | expired never =>
    cases two with
    | decided notBefore' notAfter' decides' _ =>
      exact nomatch decides'.symm.trans (never _ notBefore' notAfter')
    | expired _ => exact ⟨rfl, rfl⟩

/-- Before `due` nothing is decided, and from then on what `others` says. -/
theorem later (order : start ≤ due)
    (before : ∀ time, start ≤ time → time < due → known time = none)
    (same : ∀ time, due ≤ time → known time = others time)
    (ends : EndsAt others due last time reply) : EndsAt known start last time reply := by
  have silent {instant : Nat} (notBefore : start ≤ instant)
      (undecided : due ≤ instant → others instant = none) : known instant = none := by
    rcases Nat.lt_or_ge instant due with early | late
    · exact before instant notBefore early
    · exact (same instant late).trans (undecided late)
  cases ends with
  | decided notBefore notAfter decides first =>
    exact .decided (Nat.le_trans order notBefore) notAfter ((same _ notBefore).trans decides)
      fun earlier from_start early => silent from_start fun late => first earlier late early
  | expired never =>
    exact .expired fun instant from_start notAfter =>
      silent from_start fun late => never instant late notAfter

/-- A wait does not end while nothing is decided. -/
theorem le_time (soon : due ≤ last)
    (before : ∀ time, start ≤ time → time < due → known time = none)
    (ends : EndsAt known start last time reply) : due ≤ time := by
  cases ends with
  | decided notBefore notAfter decides first =>
    refine Nat.le_of_not_lt fun early => ?_
    exact nomatch decides.symm.trans (before _ notBefore early)
  | expired never => exact soon

theorem congr (same : ∀ time, start ≤ time → others time = known time)
    (ends : EndsAt known start last time reply) : EndsAt others start last time reply := by
  cases ends with
  | decided notBefore notAfter decides first =>
    exact .decided notBefore notAfter ((same _ notBefore).trans decides)
      fun earlier from_start early => (same _ from_start).trans (first earlier from_start early)
  | expired never =>
    exact .expired fun instant from_start notAfter =>
      (same _ from_start).trans (never instant from_start notAfter)

end EndsAt

end ThingLink
