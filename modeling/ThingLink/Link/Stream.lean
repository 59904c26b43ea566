import ThingLink.Link.Error

/-!
# Byte streams

A byte stream as a channel meets it: what arrives and when, and how each write,
flush and shutdown turns out.  `writeAll` pushes a request into a stream until
all of it is accepted.
-/

namespace ThingLink

/-- Something that a read brings from its due time on: bytes, or an error.  No
bytes at all is the end of the stream, once. -/
structure Arrival where
  due : Nat
  content : Except IoError (List UInt8)

inductive WriteResult where
  | accept (most : Nat)
  | fail (error : IoError)

/-- A byte stream, by what is still to come of it. -/
structure ByteStream where
  /-- Later arrivals never come before earlier ones. -/
  arrivals : List Arrival := []
  /-- Whether the stream ends after the last arrival; else it stays silent. -/
  ends : Bool := false
  /-- Results of the next writes; after the last one everything is accepted. -/
  writes : List WriteResult := []
  /-- Results of the next flushes; after the last one they succeed. -/
  flushes : List (Option IoError) := []
  /-- Results of the next shutdowns; after the last one they succeed. -/
  shutdowns : List (Option IoError) := []

def IoError.writeZero : IoError :=
  ⟨.other, "write zero"⟩

/-- What became of a request that was pushed into a stream. -/
structure Written where
  pieces : List (List UInt8)
  failure : Option IoError
  left : List WriteResult

/-- Writes `bs` until all of it is accepted or a write fails, for whatever reason: a
write that was interrupted is not made again either.  No bytes need no write. -/
def writeAll : List WriteResult → List UInt8 → Written
  | steps, [] => ⟨[], none, steps⟩
  | [], bs => ⟨[bs], none, []⟩
  | .fail e :: steps, _ => ⟨[], some e, steps⟩
  | .accept most :: steps, bs =>
      -- a write that makes no progress would be made for ever
      if most = 0 then ⟨[[]], some .writeZero, steps⟩
      else
        let rest := writeAll steps (bs.drop most)
        ⟨bs.take most :: rest.pieces, rest.failure, rest.left⟩

/-- The accepted bytes are a prefix of the request, and all of it unless a write
failed. -/
theorem writeAll_pieces (steps : List WriteResult) (bs : List UInt8) :
    ∃ lost, bs = (writeAll steps bs).pieces.flatten ++ lost
      ∧ ((writeAll steps bs).failure = none → lost = []) := by
  fun_induction writeAll steps bs with
  | case1 => exact ⟨[], rfl, fun _ => rfl⟩
  | case2 bs => exact ⟨[], by simp, fun _ => rfl⟩
  | case3 e steps bs => exact ⟨bs, by simp, fun h => nomatch h⟩
  | case4 steps bs => exact ⟨bs, by simp, fun h => nomatch h⟩
  | case5 most steps bs _ _ rest ih =>
      obtain ⟨lost, split, all⟩ := ih
      refine ⟨lost, ?_, all⟩
      rw [List.flatten_cons, List.append_assoc, ← split, List.take_append_drop]

end ThingLink
