/-!
# Texts as bytes

The byte form of a text is its UTF-8 encoding.  Reading bytes back succeeds
exactly on well-formed UTF-8 (`ofBytes?_eq_some_iff`), and `lossy` shows any
bytes at all, with U+FFFD in the place of each malformed stretch.
-/

namespace ThingLink.Text

def bytes (s : String) : List UInt8 :=
  s.toByteArray.data.toList

def ofBytes? (bs : List UInt8) : Option String :=
  String.fromUTF8? ⟨⟨bs⟩⟩

@[simp] theorem ofBytes?_bytes (s : String) : ofBytes? (bytes s) = some s := by
  unfold ofBytes? String.fromUTF8?
  exact (dif_pos s.isValidUTF8).trans rfl

theorem ofBytes?_eq_some_iff {bs : List UInt8} {s : String} :
    ofBytes? bs = some s ↔ bytes s = bs := by
  constructor
  · intro h
    unfold ofBytes? String.fromUTF8? at h
    split at h
    · cases Option.some.inj h
      rfl
    · exact nomatch h
  · rintro rfl
    exact ofBytes?_bytes s

/-! ## Showing malformed bytes -/

/-- A multi-byte character of which the first bytes have been seen: how many
bytes are missing, in which range the next one lies, and the bits so far. -/
structure Started where
  missing : Nat
  low : UInt8
  high : UInt8
  bits : Nat

/-- What a byte starts when no character is open: a character of its own, a
longer one, or nothing at all. -/
def start (b : UInt8) : List Char × Option Started :=
  if b < 0x80 then ([Char.ofNat b.toNat], none)
  else if 0xC2 ≤ b ∧ b ≤ 0xDF then ([], some ⟨1, 0x80, 0xBF, b.toNat - 0xC0⟩)
  else if b = 0xE0 then ([], some ⟨2, 0xA0, 0xBF, 0⟩)
  else if b = 0xED then ([], some ⟨2, 0x80, 0x9F, 0xD⟩)
  else if 0xE1 ≤ b ∧ b ≤ 0xEF then ([], some ⟨2, 0x80, 0xBF, b.toNat - 0xE0⟩)
  else if b = 0xF0 then ([], some ⟨3, 0x90, 0xBF, 0⟩)
  else if 0xF1 ≤ b ∧ b ≤ 0xF3 then ([], some ⟨3, 0x80, 0xBF, b.toNat - 0xF0⟩)
  else if b = 0xF4 then ([], some ⟨3, 0x80, 0x8F, 4⟩)
  else (['\uFFFD'], none)

/-- The characters that a byte completes, and the character it leaves open.  A
byte that cannot go on ends the open character with U+FFFD and starts afresh. -/
def Started.next (open? : Option Started) (b : UInt8) : List Char × Option Started :=
  match open? with
  | none => start b
  | some c =>
      if c.low ≤ b ∧ b ≤ c.high then
        let bits := c.bits * 64 + (b.toNat - 0x80)
        if c.missing ≤ 1 then ([Char.ofNat bits], none)
        else ([], some ⟨c.missing - 1, 0x80, 0xBF, bits⟩)
      else
        let (shown, rest) := start b
        ('\uFFFD' :: shown, rest)

/-- The characters shown for `bs` after the open character `open?`. -/
def lossyFrom (open? : Option Started) : List UInt8 → List Char
  | [] => if open?.isSome then ['\uFFFD'] else []
  | b :: bs =>
      let (shown, rest) := Started.next open? b
      shown ++ lossyFrom rest bs

/-- Bytes shown as a text whether they are UTF-8 or not. -/
def lossy (bs : List UInt8) : String :=
  String.ofList (lossyFrom none bs)

end ThingLink.Text
