import ThingLink.Wire.Frame

/-!
# The receiving side of a channel

Received bytes wait in a buffer until a whole frame is there.  A frame above the
limit is never buffered: its header is taken off, its payload is skipped as it
arrives, and its size is reported once the last byte is gone.  `Receiver.take`
is one look at the buffer.
-/

namespace ThingLink

/-- What a channel remembers between reads. -/
structure Receiver where
  /-- Bytes received and not used up yet. -/
  buffer : List UInt8 := []
  /-- How many payload bytes of an oversized frame are still to come. -/
  skipping : Nat := 0
  /-- The size of the oversized frame being skipped, until it is reported. -/
  oversized : Option Nat := none
  deriving DecidableEq, Repr

inductive Found where
  | incomplete
  | frame (bytes : List UInt8)
  /-- The last byte of a frame above the limit is gone. -/
  | tooLarge (size : Nat)
  deriving DecidableEq, Repr

namespace Receiver

/-- Looks at a buffer that starts with a header, or with the beginning of one.
`noted` is the size of an oversized frame that has not been reported. -/
def takeFrom (limit : Nat) (noted : Option Nat) : List UInt8 → Found × Receiver
  | tag :: length :: rest =>
      let size := (Header.mk tag length).frameSize
      let width := length.toNat
      if size ≤ limit then
        if rest.length < width then (.incomplete, ⟨tag :: length :: rest, 0, noted⟩)
        else (.frame (tag :: length :: rest.take width), ⟨rest.drop width, 0, noted⟩)
      -- nothing of such a frame is left to skip, so its size stays noted until a later look
      else if width = 0 then takeFrom limit (some size) rest
      else if rest.length < width then (.incomplete, ⟨[], width - rest.length, some size⟩)
      else (.tooLarge size, ⟨rest.drop width, 0, none⟩)
  | short => (.incomplete, ⟨short, 0, noted⟩)

/-- One look at the buffer of a receiver whose frames may have `limit` bytes. -/
def take (limit : Nat) (r : Receiver) : Found × Receiver :=
  if r.skipping = 0 then takeFrom limit r.oversized r.buffer
  else if r.buffer.length < r.skipping then
    (.incomplete, ⟨[], r.skipping - r.buffer.length, r.oversized⟩)
  else
    -- a frame whose size was forgotten belongs to an earlier call and is passed over
    match r.oversized with
    | some size => (.tooLarge size, ⟨r.buffer.drop r.skipping, 0, none⟩)
    | none => takeFrom limit none (r.buffer.drop r.skipping)

def receive (r : Receiver) (bs : List UInt8) : Receiver :=
  { r with buffer := r.buffer ++ bs }

/-- The receiver of a new call: an oversized frame that an earlier call left
behind is skipped without a report. -/
def forget (r : Receiver) : Receiver :=
  { r with oversized := none }

end Receiver

end ThingLink
