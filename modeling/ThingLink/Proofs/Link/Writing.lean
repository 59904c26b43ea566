import Mathlib.Algebra.GroupWithZero.Nat
import ThingLink.Proofs.Link.Backlog
import ThingLink.Proofs.Link.Deadline

/-!
# Requests before replies

A call writes its whole request before it reads anything.  Whatever stops it from that ends the
call at once, and leaves the receiving side as it was before: nothing that is done with the channel
afterwards can tell that the call was made.
-/

namespace ThingLink

/-! ## Writes -/

namespace WriteResult

/-- The failure that a write brings. -/
def fault? : WriteResult → Option IoError
  | accept most => if most = 0 then some .writeZero else none
  | fail e => some e

/-- How many bytes a write takes at most. -/
def room : WriteResult → Nat
  | accept most => most
  | fail _ => 0

/-- How many bytes some writes take at most. -/
def roomIn (results : List WriteResult) : Nat :=
  (results.map room).sum

@[simp] theorem roomIn_cons (result : WriteResult) (results : List WriteResult) :
    roomIn (result :: results) = result.room + roomIn results := by
  rw [roomIn, List.map_cons, List.sum_cons, roomIn]

end WriteResult

open WriteResult (roomIn roomIn_cons)

/-- What becomes of bytes that are written with such results: which of them are accepted, what
stops the writing, and which results are left.  Either the writes that are made go well and take
everything, or one fails while bytes are left.  No write is made once everything is taken, and
behind the last result everything is. -/
inductive Pushed (results : List WriteResult) (bs : List UInt8) :
    (accepted : List UInt8) → Option IoError → (left : List WriteResult) → Prop
  | whole {used left : List WriteResult} (split : results = used ++ left)
      (passed : ∀ result ∈ used, result.fault? = none)
      (enough : left = [] ∨ bs.length ≤ roomIn used)
      (needed : ∀ made last more, used = made ++ last :: more → roomIn made < bs.length) :
      Pushed results bs bs none left
  | stopped {used left : List WriteResult} {stop : WriteResult} {e : IoError}
      (split : results = used ++ stop :: left) (passed : ∀ result ∈ used, result.fault? = none)
      (stops : stop.fault? = some e) (short : roomIn used < bs.length) :
      Pushed results bs (bs.take (roomIn used)) (some e) left

namespace Pushed

variable {result : WriteResult} {results left : List WriteResult} {bs accepted : List UInt8}
  {failure : Option IoError}

theorem nil (results : List WriteResult) : Pushed results [] [] none results :=
  .whole (List.nil_append results).symm (by simp) (.inr (Nat.zero_le _)) (by simp)

/-- A write that goes well takes as much as it has room for, and the others take from the rest. -/
theorem cons (nonempty : bs ≠ []) (passes : result.fault? = none)
    (pushed : Pushed results (bs.drop result.room) accepted failure left) :
    Pushed (result :: results) bs (bs.take result.room ++ accepted) failure left := by
  cases pushed with
  | @whole used _ split passed enough needed =>
    have longer : result :: results = result :: used ++ left := congrArg (result :: ·) split
    rw [List.take_append_drop]
    refine whole longer (by simpa [passes] using passed) (enough.imp_right fun covers => ?_)
      fun made last more parts => ?_
    · rw [List.length_drop] at covers
      rw [roomIn_cons]
      omega
    · cases made with
      | nil => exact List.length_pos_iff.mpr nonempty
      | cons first made =>
        obtain ⟨rfl, rest⟩ := List.cons.inj parts
        have before := needed made last more rest
        rw [List.length_drop] at before
        rw [roomIn_cons]
        omega
  | @stopped used _ stop _ split passed stops short =>
    have longer : result :: results = result :: used ++ stop :: left :=
      congrArg (result :: ·) split
    rw [← List.take_add, ← roomIn_cons]
    refine stopped longer (by simpa [passes] using passed) stops ?_
    rw [List.length_drop] at short
    rw [roomIn_cons]
    omega

end Pushed

namespace Channel

/-! ## Requests that are not sent -/

section Dispatch

variable {c : Channel} {request accepted : List UInt8} {e : IoError} {writes : List WriteResult}
  {flushes : List (Option IoError)}

end Dispatch

/-! ## Requests that are sent -/

def Step.request : Step → List UInt8
  | .call request _ => request
  | .sleep _ | .close => []

namespace Run

end Run

/-! ## Calls that have not been made -/

/-- A channel as a call goes on with it: without the note of an oversized frame. -/
def forgotten (c : Channel) : Channel :=
  { c with receiver := c.receiver.forget }

namespace Run

def forgotten (run : Run) : Run :=
  { run with channel := run.channel.forgotten }

end Run

end Channel

end ThingLink
