/-!
# Frames

Bytes travel in frames: a tag byte, a length byte, and as many payload bytes as
the length says.  `Header.parse?` reads the first two bytes, so that a reader
learns the size of a frame before it asks whether the tag means anything.
`Frame` is a whole frame as a value, and `frame_append_injective` says that a
row of frames can be cut in one way only.
-/

namespace ThingLink

def headerSize : Nat := 2

/-- The longest payload that the length byte can announce. -/
def maxPayload : Nat := 255

def maxFrame : Nat := headerSize + maxPayload

/-! ## Kinds of message -/

inductive MessageKind where
  | registerRequest
  | registerResponse
  | authRequest
  | authResponse
  deriving DecidableEq, Repr, Inhabited

namespace MessageKind

def all : List MessageKind :=
  [registerRequest, registerResponse, authRequest, authResponse]

def tag : MessageKind → UInt8
  | registerRequest => 0x10
  | registerResponse => 0x11
  | authRequest => 0x14
  | authResponse => 0x15

def name : MessageKind → String
  | registerRequest => "REGISTER_REQUEST"
  | registerResponse => "REGISTER_RESPONSE"
  | authRequest => "AUTH_REQUEST"
  | authResponse => "AUTH_RESPONSE"

def ofTag? (t : UInt8) : Option MessageKind :=
  all.find? (·.tag = t)

@[simp] theorem ofTag?_tag (kind : MessageKind) : ofTag? kind.tag = some kind := by
  cases kind <;> decide

theorem ofTag?_eq_some_iff {t : UInt8} {kind : MessageKind} :
    ofTag? t = some kind ↔ kind.tag = t := by
  constructor
  · intro h
    simpa using List.find?_some h
  · rintro rfl
    exact ofTag?_tag kind

end MessageKind

/-! ## Headers -/

structure Header where
  tag : UInt8
  length : UInt8
  deriving DecidableEq, Repr

namespace Header

def parse? : List UInt8 → Option Header
  | tag :: length :: _ => some ⟨tag, length⟩
  | _ => none

def frameSize (h : Header) : Nat :=
  headerSize + h.length.toNat

theorem frameSize_le (h : Header) : h.frameSize ≤ maxFrame := by
  have := h.length.toNat_lt
  simp only [frameSize, maxFrame, headerSize, maxPayload]
  omega

theorem parse?_eq_none_iff {bs : List UInt8} :
    parse? bs = none ↔ bs.length < headerSize := by
  match bs with
  | [] => simp [parse?, headerSize]
  | [_] => simp [parse?, headerSize]
  | _ :: _ :: _ => simp [parse?, headerSize]

theorem parse?_append {bs rest : List UInt8} {h : Header} (found : parse? bs = some h) :
    parse? (bs ++ rest) = some h := by
  match bs, found with
  | _ :: _ :: _, found => exact found

end Header

/-! ## Whole frames -/

/-- A whole frame: a tag and a payload that the length byte can announce. -/
structure Frame where
  tag : UInt8
  payload : List UInt8
  fits : payload.length ≤ maxPayload
  deriving DecidableEq

namespace Frame

def header (f : Frame) : Header :=
  ⟨f.tag, UInt8.ofNat f.payload.length⟩

def bytes (f : Frame) : List UInt8 :=
  f.tag :: UInt8.ofNat f.payload.length :: f.payload

def size (f : Frame) : Nat :=
  f.bytes.length

theorem toNat_ofNat_length (f : Frame) :
    (UInt8.ofNat f.payload.length).toNat = f.payload.length := by
  have := f.fits
  simp only [maxPayload] at this
  simp only [UInt8.toNat_ofNat']
  omega

theorem size_eq (f : Frame) : f.size = f.header.frameSize := by
  simp only [size, bytes, header, Header.frameSize, toNat_ofNat_length, headerSize,
    List.length_cons]
  omega

/-- Frames laid end to end cannot be cut in a second way. -/
theorem frame_append_injective {f g : Frame} {xs ys : List UInt8}
    (same : f.bytes ++ xs = g.bytes ++ ys) : f = g ∧ xs = ys := by
  obtain ⟨ft, fp, ff⟩ := f
  obtain ⟨gt, gp, gf⟩ := g
  simp only [bytes, List.cons_append, List.cons.injEq] at same
  obtain ⟨rfl, lengths, tails⟩ := same
  have hf := toNat_ofNat_length ⟨ft, fp, ff⟩
  have hg := toNat_ofNat_length ⟨ft, gp, gf⟩
  simp only at hf hg
  have equal : fp.length = gp.length := by rw [← hf, ← hg, lengths]
  obtain ⟨rfl, rfl⟩ := List.append_inj tails equal
  exact ⟨rfl, rfl⟩

end Frame

end ThingLink
