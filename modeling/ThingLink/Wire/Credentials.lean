import ThingLink.Text.Utf8
import ThingLink.Wire.Error

/-!
# Credentials

A registered thing holds a UUID and a token.  Both are fixed-width ASCII; the
UUID has its five groups of hexadecimal digits joined by hyphens.  The type
carries these two conditions, so that `make` (from texts) and `ofWire` (from
bytes) are the only ways to a value and differ in their errors alone.
-/

namespace ThingLink

open Text (bytes ofBytes?)

def uuidSize : Nat := 36

def tokenSize : Nat := 40

/-! ## Well-formed bytes -/

def isAscii (bs : List UInt8) : Bool :=
  bs.all (· < 0x80)

def isHexDigit (b : UInt8) : Bool :=
  (0x30 ≤ b && b ≤ 0x39) || (0x41 ≤ b && b ≤ 0x46) || (0x61 ≤ b && b ≤ 0x66)

def hyphenOffsets : List Nat := [8, 13, 18, 23]

def uuidByteAt (offset : Nat) (b : UInt8) : Bool :=
  if hyphenOffsets.contains offset then b == 0x2D else isHexDigit b

def isUuid (bs : List UInt8) : Bool :=
  bs.length == uuidSize && (bs.zipIdx.all fun (b, offset) => uuidByteAt offset b)

/-- Whether bytes are the right number of ASCII characters. -/
def isFixedAscii (size : Nat) (bs : List UInt8) : Bool :=
  bs.length == size && isAscii bs

def isToken (bs : List UInt8) : Bool :=
  isFixedAscii tokenSize bs

theorem isAscii_of_isHexDigit {b : UInt8} (h : isHexDigit b = true) : b < 0x80 := by
  simp only [isHexDigit, Bool.or_eq_true, Bool.and_eq_true, decide_eq_true_eq,
    UInt8.le_iff_toNat_le] at h
  rw [UInt8.lt_iff_toNat_lt]
  change _ < 128
  have : (0x39 : UInt8).toNat = 57 := rfl
  have : (0x46 : UInt8).toNat = 70 := rfl
  have : (0x66 : UInt8).toNat = 102 := rfl
  omega

theorem lt_of_uuidByteAt {offset : Nat} {b : UInt8} (h : uuidByteAt offset b = true) :
    b < 0x80 := by
  unfold uuidByteAt at h
  split at h
  · obtain rfl := eq_of_beq h
    decide
  · exact isAscii_of_isHexDigit h

theorem length_of_isUuid {bs : List UInt8} (h : isUuid bs = true) : bs.length = uuidSize := by
  simp only [isUuid, Bool.and_eq_true, beq_iff_eq] at h
  exact h.1

theorem isAscii_of_isUuid {bs : List UInt8} (h : isUuid bs = true) : isAscii bs = true := by
  simp only [isUuid, Bool.and_eq_true, List.all_eq_true] at h
  simp only [isAscii, List.all_eq_true, decide_eq_true_eq]
  intro b member
  obtain ⟨offset, bound, rfl⟩ := List.mem_iff_getElem.mp member
  have := h.2 (bs[offset], offset) (by
    rw [List.mem_zipIdx_iff_getElem?]
    simp [List.getElem?_eq_getElem bound])
  exact lt_of_uuidByteAt this

theorem length_of_isToken {bs : List UInt8} (h : isToken bs = true) : bs.length = tokenSize := by
  simp only [isToken, isFixedAscii, Bool.and_eq_true, beq_iff_eq] at h
  exact h.1

theorem isAscii_of_isToken {bs : List UInt8} (h : isToken bs = true) : isAscii bs = true := by
  simp only [isToken, isFixedAscii, Bool.and_eq_true] at h
  exact h.2

theorem isToken_of_ofBytes? {bs : List UInt8} {s : String} (sized : bs.length = tokenSize)
    (ascii : isAscii bs = true) (found : ofBytes? bs = some s) : isToken (bytes s) = true := by
  rw [Text.ofBytes?_eq_some_iff.mp found]
  simp [isToken, isFixedAscii, sized, ascii]

theorem utf8EncodeChar_ofNat {b : UInt8} (ascii : b < 0x80) :
    String.utf8EncodeChar (Char.ofNat b.toNat) = [b] := by
  have small : b.toNat < 0x80 := UInt8.lt_iff_toNat_lt.mp ascii
  have value : (Char.ofNat b.toNat).val.toNat = b.toNat := by
    have valid : b.toNat.isValidChar := .inl (by omega)
    have read : Char.ofNat b.toNat = Char.ofNatAux b.toNat valid := dif_pos valid
    rw [read]
    rfl
  unfold String.utf8EncodeChar
  rw [value]
  simp only [Nat.le_of_lt_succ small, if_true, UInt8.ofNat_toNat]

theorem exists_text_of_isAscii {bs : List UInt8} (ascii : isAscii bs = true) :
    ∃ s, bytes s = bs := by
  refine ⟨String.ofList (bs.map fun b => Char.ofNat b.toNat), ?_⟩
  have encoded : (bs.map fun b => Char.ofNat b.toNat).flatMap String.utf8EncodeChar = bs := by
    induction bs with
    | nil => rfl
    | cons b bs inductionHypothesis =>
      simp only [isAscii, List.all_cons, Bool.and_eq_true, decide_eq_true_eq] at ascii
      rw [List.map_cons, List.flatMap_cons, utf8EncodeChar_ofNat ascii.1,
        inductionHypothesis ascii.2, List.singleton_append]
  rw [bytes, String.toByteArray_ofList, List.utf8Encode, encoded]
  simp

/-! ## Credentials -/

/-- The UUID and the token that a gateway issued to a thing. -/
structure Credentials where
  uuid : String
  token : String
  uuid_valid : isUuid (bytes uuid) = true
  token_valid : isToken (bytes token) = true
  deriving DecidableEq

namespace Credentials

def wireSize : Nat := uuidSize + tokenSize

/-- Credentials from two texts.  The widths are checked first, the form of the
UUID last. -/
def make (uuid token : String) : Except ProtocolError Credentials :=
  if !isFixedAscii uuidSize (bytes uuid) then
    .error (.invalidCredential .uuid uuidSize (bytes uuid).length)
  else if tokenOk : isToken (bytes token) then
    if uuidOk : isUuid (bytes uuid) then .ok ⟨uuid, token, uuidOk, tokenOk⟩
    else .error (.invalidUuid uuid)
  else .error (.invalidCredential .token tokenSize (bytes token).length)

def wire (c : Credentials) : List UInt8 :=
  bytes c.uuid ++ bytes c.token

/-- Credentials from the bytes of a UUID and those of a token, of which there are
always enough.  The token is not looked at before the UUID has its form. -/
def ofParts (uuidBytes tokenBytes : List UInt8) (sized : tokenBytes.length = tokenSize) :
    Except DecodeError Credentials :=
  if isAscii uuidBytes then
    match ofBytes? uuidBytes with
    | none => .error (.invalidText .uuid)
    | some uuid =>
        if uuidOk : isUuid (bytes uuid) then
          if ascii : isAscii tokenBytes then
            match found : ofBytes? tokenBytes with
            | none => .error (.invalidText .token)
            | some token => .ok ⟨uuid, token, uuidOk, isToken_of_ofBytes? sized ascii found⟩
          else .error (.invalidText .token)
        else .error (.invalidText .uuid)
  else .error (.invalidText .uuid)

def ofWire (payload : List UInt8) (sized : payload.length = wireSize) :
    Except DecodeError Credentials :=
  -- what is not the UUID is as long as a token, since the payload has both
  ofParts (payload.take uuidSize) (payload.drop uuidSize)
    (by rw [List.length_drop, sized]; rfl)

theorem ext_texts {a b : Credentials} (uuids : a.uuid = b.uuid) (tokens : a.token = b.token) :
    a = b := by
  cases a
  cases b
  simp_all

theorem uuid_length (c : Credentials) : (bytes c.uuid).length = uuidSize :=
  length_of_isUuid c.uuid_valid

theorem token_length (c : Credentials) : (bytes c.token).length = tokenSize :=
  length_of_isToken c.token_valid

@[simp] theorem wire_length (c : Credentials) : c.wire.length = wireSize := by
  simp [wire, wireSize, uuid_length, token_length]

theorem make_eq_ok_iff {uuid token : String} {c : Credentials} :
    make uuid token = .ok c ↔ c.uuid = uuid ∧ c.token = token := by
  constructor
  · intro h
    unfold make at h
    split at h
    · exact nomatch h
    · split at h
      · split at h
        · cases h
          exact ⟨rfl, rfl⟩
        · exact nomatch h
      · exact nomatch h
  · rintro ⟨rfl, rfl⟩
    have ascii : isFixedAscii uuidSize (bytes c.uuid) = true := by
      simp [isFixedAscii, uuid_length, isAscii_of_isUuid c.uuid_valid]
    simp [make, ascii, c.uuid_valid, c.token_valid]

theorem ofParts_eq_ok_iff {u t : List UInt8} {sized : t.length = tokenSize} {c : Credentials} :
    ofParts u t sized = .ok c ↔ bytes c.uuid = u ∧ bytes c.token = t := by
  constructor
  · intro h
    unfold ofParts at h
    split at h
    · split at h
      · exact nomatch h
      · next uuid foundUuid =>
        split at h
        · split at h
          · split at h
            · exact nomatch h
            · next token foundToken =>
              cases h
              exact ⟨Text.ofBytes?_eq_some_iff.mp foundUuid,
                Text.ofBytes?_eq_some_iff.mp foundToken⟩
          · exact nomatch h
        · exact nomatch h
    · exact nomatch h
  · rintro ⟨rfl, rfl⟩
    unfold ofParts
    rw [if_pos (isAscii_of_isUuid c.uuid_valid)]
    simp only [Text.ofBytes?_bytes]
    rw [dif_pos c.uuid_valid, dif_pos (isAscii_of_isToken c.token_valid)]
    split
    · next missing => simp at missing
    · next token found =>
      have same : c.token = token := by simpa using found
      exact congrArg Except.ok (ext_texts rfl same.symm)

theorem ofWire_eq_ok_iff {payload : List UInt8} {c : Credentials}
    (sized : payload.length = wireSize) : ofWire payload sized = .ok c ↔ c.wire = payload := by
  rw [ofWire, ofParts_eq_ok_iff]
  constructor
  · rintro ⟨hu, ht⟩
    rw [wire, hu, ht, List.take_append_drop]
  · intro same
    have split := (List.take_append_drop uuidSize payload).trans same.symm
    have widths : (payload.take uuidSize).length = (bytes c.uuid).length := by
      rw [uuid_length, List.length_take, sized]
      decide
    obtain ⟨hu, ht⟩ := List.append_inj split widths
    exact ⟨hu.symm, ht.symm⟩

/-- Whatever has the form of a UUID and of a token on the wire belongs to some credentials. -/
theorem exists_of_valid {u t : List UInt8} (uuid : isUuid u = true)
    (token : isToken t = true) : ∃ c : Credentials, bytes c.uuid = u ∧ bytes c.token = t := by
  obtain ⟨uuidText, rfl⟩ := exists_text_of_isAscii (isAscii_of_isUuid uuid)
  obtain ⟨tokenText, rfl⟩ := exists_text_of_isAscii (isAscii_of_isToken token)
  exact ⟨⟨uuidText, tokenText, uuid, token⟩, rfl, rfl⟩

end Credentials

end ThingLink
