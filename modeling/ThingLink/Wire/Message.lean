import ThingLink.Wire.Credentials
import ThingLink.Wire.ResultCode

/-!
# Messages

The four messages between a thing and its gateway, as values and as frames.
`Message.encode` writes the frame of a message; `Message.decode` reads one from
the front of some bytes and ignores what follows the frame.

* `decode_encode_append` : an encoded message decodes, whatever follows it.
* `encode_of_decode` : a decoded message encodes to the frame it was read from.
-/

namespace ThingLink

open Text (bytes ofBytes? capacity)

def maxNameSize : Nat := 64

def idSize : Nat := 8

/-! ## Little-endian numbers -/

/-- The `width` lowest bytes of a number, the lowest first. -/
def littleEndian : Nat → Nat → List UInt8
  | 0, _ => []
  | width + 1, n => UInt8.ofNat n :: littleEndian width (n / 256)

def littleEndianValue : List UInt8 → Nat
  | [] => 0
  | b :: bs => b.toNat + 256 * littleEndianValue bs

@[simp] theorem littleEndian_length (width n : Nat) : (littleEndian width n).length = width := by
  induction width generalizing n with
  | zero => rfl
  | succ width ih => simp [littleEndian, ih]

theorem littleEndianValue_littleEndian {width n : Nat} (fits : n < capacity 256 width) :
    littleEndianValue (littleEndian width n) = n := by
  induction width generalizing n with
  | zero => simp [capacity] at fits; simp [fits, littleEndian, littleEndianValue]
  | succ width ih =>
      have := ih (n := n / 256) (Nat.div_lt_of_lt_mul fits)
      simp only [littleEndian, littleEndianValue, this, UInt8.toNat_ofNat']
      omega

theorem littleEndianValue_lt (bs : List UInt8) : littleEndianValue bs < capacity 256 bs.length := by
  induction bs with
  | nil => decide
  | cons b bs ih =>
      have := b.toNat_lt
      simp only [littleEndianValue, List.length_cons, capacity]
      omega

theorem littleEndian_littleEndianValue (bs : List UInt8) :
    littleEndian bs.length (littleEndianValue bs) = bs := by
  induction bs with
  | nil => rfl
  | cons b bs ih =>
      have byte := b.toNat_lt
      have quotient : (b.toNat + 256 * littleEndianValue bs) / 256 = littleEndianValue bs := by omega
      have low : UInt8.ofNat (b.toNat + 256 * littleEndianValue bs) = b := by
        apply UInt8.toNat_inj.mp
        simp only [UInt8.toNat_ofNat']
        omega
      simp [littleEndian, littleEndianValue, quotient, low, ih]

/-! ## The messages -/

structure RegisterRequest where
  deviceId : UInt64
  deviceName : String
  name_fits : (bytes deviceName).length ≤ maxNameSize
  deriving DecidableEq

/-- The answer to a `RegisterRequest`; an accepting gateway may issue credentials. -/
structure RegisterResponse where
  result : ResultCode
  credentials : Option Credentials := none
  deriving DecidableEq

structure AuthRequest where
  credentials : Credentials
  deriving DecidableEq

structure AuthResponse where
  result : ResultCode
  deriving DecidableEq

inductive Message where
  | registerRequest (request : RegisterRequest)
  | registerResponse (response : RegisterResponse)
  | authRequest (request : AuthRequest)
  | authResponse (response : AuthResponse)
  deriving DecidableEq

def RegisterRequest.make (deviceId : UInt64) (deviceName : String) :
    Except ProtocolError RegisterRequest :=
  if fits : (bytes deviceName).length ≤ maxNameSize then .ok ⟨deviceId, deviceName, fits⟩
  else .error (.nameTooLong (bytes deviceName).length maxNameSize)

def ResultCode.byte (code : ResultCode) : UInt8 :=
  code.wire.toUInt8

def ResultCode.ofByte (b : UInt8) : Except DecodeError ResultCode :=
  match ofWire? b.toInt8 with
  | some code => .ok code
  | none => .error (.unknownResult b.toInt8)

theorem ResultCode.ofByte_eq_ok_iff {b : UInt8} {code : ResultCode} :
    ofByte b = .ok code ↔ code.byte = b := by
  have same : ofWire? b.toInt8 = some code ↔ code.byte = b := by
    rw [ofWire?_eq_some_iff, byte]
    constructor
    · intro h
      rw [h]
      rfl
    · rintro rfl
      rfl
  rw [← same, ofByte]
  split <;> simp_all

namespace Message

def kind : Message → MessageKind
  | registerRequest _ => .registerRequest
  | registerResponse _ => .registerResponse
  | authRequest _ => .authRequest
  | authResponse _ => .authResponse

/-! ## Encoding -/

def payload : Message → List UInt8
  | registerRequest r => littleEndian idSize r.deviceId.toNat ++ bytes r.deviceName
  | registerResponse r => r.result.byte :: (r.credentials.map Credentials.wire).getD []
  | authRequest r => r.credentials.wire
  | authResponse r => [r.result.byte]

/-- The number of bytes that a message announces for its payload. -/
def payloadSize : Message → Nat
  | registerRequest r => idSize + (bytes r.deviceName).length
  | registerResponse r => 1 + (r.credentials.map fun _ => Credentials.wireSize).getD 0
  | authRequest _ => Credentials.wireSize
  | authResponse _ => 1

/-- Appends the frame of a message to a buffer.  The length byte keeps the low eight
bits of the size. -/
def encodeInto (buffer : List UInt8) (m : Message) : List UInt8 :=
  buffer ++ m.kind.tag :: UInt8.ofNat m.payloadSize :: m.payload

def encode (m : Message) : List UInt8 :=
  encodeInto [] m

@[simp] theorem payload_length (m : Message) : m.payload.length = m.payloadSize := by
  cases m with
  | registerRequest r => simp [payload, payloadSize]
  | registerResponse r => cases h : r.credentials <;> simp [payload, payloadSize, h, Nat.add_comm]
  | authRequest r => simp [payload, payloadSize]
  | authResponse r => simp [payload, payloadSize]

/-- No payload is longer than a verdict with credentials: 77 bytes. -/
theorem payloadSize_le (m : Message) : m.payloadSize ≤ 1 + Credentials.wireSize := by
  cases m with
  | registerRequest r =>
      have := r.name_fits
      simp only [maxNameSize] at this
      simp only [payloadSize, idSize, Credentials.wireSize, uuidSize, tokenSize]
      omega
  | registerResponse r => cases h : r.credentials <;> simp [payloadSize, h]
  | authRequest r => simp [payloadSize]
  | authResponse r => simp [payloadSize]

@[simp] theorem toNat_ofNat_payloadSize (m : Message) :
    (UInt8.ofNat m.payloadSize).toNat = m.payloadSize := by
  have := payloadSize_le m
  simp only [Credentials.wireSize, uuidSize, tokenSize] at this
  simp only [UInt8.toNat_ofNat']
  omega

theorem encodeInto_eq (buffer : List UInt8) (m : Message) :
    encodeInto buffer m = buffer ++ m.encode :=
  rfl

theorem encode_length (m : Message) : m.encode.length = headerSize + m.payloadSize := by
  simp only [encode, encodeInto, List.nil_append, List.length_cons, payload_length, headerSize]
  omega

/-! ## Decoding -/

/-- A name that is read from the rest of a short enough payload is short enough. -/
theorem name_fits_of_ofBytes? {p : List UInt8} {name : String}
    (sized : ¬(p.length < idSize ∨ idSize + maxNameSize < p.length))
    (found : ofBytes? (p.drop idSize) = some name) : (bytes name).length ≤ maxNameSize := by
  rw [Text.ofBytes?_eq_some_iff.mp found, List.length_drop]
  omega

def decodeRegisterRequest (p : List UInt8) : Except DecodeError RegisterRequest :=
  if sized : p.length < idSize ∨ idSize + maxNameSize < p.length then
    .error (.lengthMismatch .registerRequest p.length)
  else
    match found : ofBytes? (p.drop idSize) with
    | none => .error (.invalidText .deviceName)
    | some name =>
        .ok ⟨UInt64.ofNat (littleEndianValue (p.take idSize)), name,
          name_fits_of_ofBytes? sized found⟩

def decodeRegisterResponse (p : List UInt8) : Except DecodeError RegisterResponse :=
  -- the length alone tells whether credentials follow the verdict
  match p with
  | [b] => (ResultCode.ofByte b).map (⟨·, none⟩)
  | b :: rest =>
      if sized : rest.length = Credentials.wireSize then
        match ResultCode.ofByte b with
        | .error e => .error e
        | .ok code => (Credentials.ofWire rest sized).map (⟨code, some ·⟩)
      else .error (.lengthMismatch .registerResponse p.length)
  | [] => .error (.lengthMismatch .registerResponse 0)

def decodeAuthRequest (p : List UInt8) : Except DecodeError AuthRequest :=
  if sized : p.length = Credentials.wireSize then
    (Credentials.ofWire p sized).map AuthRequest.mk
  else .error (.lengthMismatch .authRequest p.length)

def decodeAuthResponse (p : List UInt8) : Except DecodeError AuthResponse :=
  match p with
  | [b] => (ResultCode.ofByte b).map AuthResponse.mk
  | _ => .error (.lengthMismatch .authResponse p.length)

def decodePayload (kind : MessageKind) (p : List UInt8) : Except DecodeError Message :=
  match kind with
  | .registerRequest => (decodeRegisterRequest p).map .registerRequest
  | .registerResponse => (decodeRegisterResponse p).map .registerResponse
  | .authRequest => (decodeAuthRequest p).map .authRequest
  | .authResponse => (decodeAuthResponse p).map .authResponse

/-- Reads one message from the front of some bytes: first the header, then the
tag, then as many bytes as the header announces. -/
def decode (bs : List UInt8) : Except DecodeError Message :=
  match Header.parse? bs with
  | none => .error (.truncated headerSize bs.length)
  | some h =>
      -- a tag without a meaning is reported before any payload is waited for
      match MessageKind.ofTag? h.tag with
      | none => .error (.unknownType h.tag)
      | some kind =>
          if bs.length < h.frameSize then .error (.truncated h.frameSize bs.length)
          else decodePayload kind ((bs.drop headerSize).take h.length.toNat)

/-! ## Payloads read back -/

theorem map_eq_ok_iff {ε α β : Type} {f : α → β} {x : Except ε α} {b : β} :
    x.map f = .ok b ↔ ∃ a, x = .ok a ∧ f a = b := by
  cases x <;> simp [Except.map]

theorem decodeRegisterRequest_eq_ok_iff {p : List UInt8} {r : RegisterRequest} :
    decodeRegisterRequest p = .ok r ↔ payload (.registerRequest r) = p := by
  constructor
  · intro h
    unfold decodeRegisterRequest at h
    split at h
    · exact nomatch h
    · next sized =>
      simp only [not_or, Nat.not_lt] at sized
      split at h
      · exact nomatch h
      · next name found =>
        cases h
        have front : (p.take idSize).length = idSize := by simp [sized.1]
        have bound := littleEndianValue_lt (p.take idSize)
        rw [front] at bound
        simp only [payload, Text.ofBytes?_eq_some_iff.mp found]
        have exact_id : (UInt64.ofNat (littleEndianValue (p.take idSize))).toNat
            = littleEndianValue (p.take idSize) := by
          rw [UInt64.toNat_ofNat']
          exact Nat.mod_eq_of_lt (by simpa [idSize, capacity] using bound)
        rw [exact_id]
        have back := littleEndian_littleEndianValue (p.take idSize)
        rw [front] at back
        rw [back, List.take_append_drop]
  · rintro rfl
    have fits := r.name_fits
    have id_fits : r.deviceId.toNat < capacity 256 idSize := by
      have := r.deviceId.toNat_lt
      simpa [idSize, capacity] using this
    have sized : ¬((payload (.registerRequest r)).length < idSize
        ∨ idSize + maxNameSize < (payload (.registerRequest r)).length) := by
      simp only [payload, List.length_append, littleEndian_length]
      omega
    have front : (payload (.registerRequest r)).take idSize
        = littleEndian idSize r.deviceId.toNat := by
      simp [payload]
    have back : ofBytes? ((payload (.registerRequest r)).drop idSize) = some r.deviceName := by
      simp [payload]
    rw [decodeRegisterRequest, dif_neg sized]
    split
    · next missing => simp [back] at missing
    · next name found =>
      obtain rfl := Option.some.inj (back.symm.trans found)
      simp only [front, littleEndianValue_littleEndian id_fits, UInt64.ofNat_toNat]

theorem decodeRegisterResponse_single_eq_ok_iff {b : UInt8} {r : RegisterResponse} :
    decodeRegisterResponse [b] = .ok r ↔ payload (.registerResponse r) = [b] := by
  obtain ⟨code, credentials⟩ := r
  simp only [decodeRegisterResponse, map_eq_ok_iff, ResultCode.ofByte_eq_ok_iff,
    RegisterResponse.mk.injEq, payload, List.cons.injEq]
  constructor
  · rintro ⟨a, rfl, rfl, rfl⟩
    exact ⟨rfl, rfl⟩
  · rintro ⟨rfl, empty⟩
    refine ⟨code, rfl, rfl, ?_⟩
    cases credentials with
    | none => rfl
    | some c =>
        have := congrArg List.length empty
        simp [Credentials.wireSize, uuidSize] at this

theorem decodeRegisterResponse_long_eq_ok_iff {b b' : UInt8} {rest : List UInt8}
    {r : RegisterResponse} :
    decodeRegisterResponse (b :: b' :: rest) = .ok r
      ↔ payload (.registerResponse r) = b :: b' :: rest := by
  obtain ⟨code, credentials⟩ := r
  simp only [decodeRegisterResponse, payload, List.cons.injEq]
  split
  · next sized =>
    constructor
    · intro h
      split at h
      · cases h
      · next found =>
        obtain ⟨c, hc, same⟩ := map_eq_ok_iff.mp h
        cases same
        exact ⟨ResultCode.ofByte_eq_ok_iff.mp found, (Credentials.ofWire_eq_ok_iff sized).mp hc⟩
    · rintro ⟨rfl, same⟩
      rw [ResultCode.ofByte_eq_ok_iff.mpr rfl]
      cases credentials with
      | none => simp at same
      | some c =>
          have issued := (Credentials.ofWire_eq_ok_iff (c := c) sized).mpr same
          simp [issued, Except.map]
  · next sized =>
    constructor
    · intro h
      cases h
    · rintro ⟨-, same⟩
      cases credentials with
      | none => simp at same
      | some c =>
          have := congrArg List.length same
          simp only [Option.map_some, Option.getD_some, Credentials.wire_length] at this
          exact absurd this.symm sized

theorem decodeRegisterResponse_eq_ok_iff {p : List UInt8} {r : RegisterResponse} :
    decodeRegisterResponse p = .ok r ↔ payload (.registerResponse r) = p := by
  cases p with
  | nil => simp [decodeRegisterResponse, payload]
  | cons b rest =>
      cases rest with
      | nil => exact decodeRegisterResponse_single_eq_ok_iff
      | cons b' rest => exact decodeRegisterResponse_long_eq_ok_iff

theorem decodeAuthRequest_eq_ok_iff {p : List UInt8} {r : AuthRequest} :
    decodeAuthRequest p = .ok r ↔ payload (.authRequest r) = p := by
  unfold decodeAuthRequest
  split
  · next sized =>
    rw [map_eq_ok_iff]
    constructor
    · rintro ⟨c, hc, rfl⟩
      exact (Credentials.ofWire_eq_ok_iff sized).mp hc
    · intro same
      exact ⟨r.credentials, (Credentials.ofWire_eq_ok_iff sized).mpr same, rfl⟩
  · next sized =>
    refine ⟨nofun, ?_⟩
    rintro rfl
    exact absurd (Credentials.wire_length _) sized

theorem decodeAuthResponse_eq_ok_iff {p : List UInt8} {r : AuthResponse} :
    decodeAuthResponse p = .ok r ↔ payload (.authResponse r) = p := by
  obtain ⟨code⟩ := r
  unfold decodeAuthResponse
  split
  · next b =>
    simp [map_eq_ok_iff, ResultCode.ofByte_eq_ok_iff, payload]
  · next other =>
    refine ⟨nofun, ?_⟩
    rintro rfl
    exact absurd rfl (other _)

/-- A payload of a kind is read as a message exactly when it is the payload of
that message and the message is of that kind. -/
theorem decodePayload_eq_ok_iff {kind : MessageKind} {p : List UInt8} {m : Message} :
    decodePayload kind p = .ok m ↔ m.kind = kind ∧ m.payload = p := by
  cases kind <;> cases m <;>
    simp [decodePayload, map_eq_ok_iff, Message.kind, decodeRegisterRequest_eq_ok_iff,
      decodeRegisterResponse_eq_ok_iff, decodeAuthRequest_eq_ok_iff, decodeAuthResponse_eq_ok_iff]

/-! ## Frames read back -/

theorem parse?_encode_append (m : Message) (rest : List UInt8) :
    Header.parse? (m.encode ++ rest) = some ⟨m.kind.tag, UInt8.ofNat m.payloadSize⟩ :=
  rfl

theorem frameSize_encode (m : Message) :
    (Header.mk m.kind.tag (UInt8.ofNat m.payloadSize)).frameSize = m.encode.length := by
  rw [Header.frameSize, toNat_ofNat_payloadSize, encode_length]

/-- An encoded message decodes, whatever follows it. -/
@[simp] theorem decode_encode_append (m : Message) (rest : List UInt8) :
    decode (m.encode ++ rest) = .ok m := by
  have enough : ¬(m.encode ++ rest).length < m.encode.length := by simp
  have body : ((m.encode ++ rest).drop headerSize).take m.payloadSize = m.payload := by
    simp [encode, encodeInto, headerSize, ← payload_length]
  simp only [decode, parse?_encode_append, MessageKind.ofTag?_tag, frameSize_encode,
    if_neg enough, toNat_ofNat_payloadSize, body]
  exact decodePayload_eq_ok_iff.mpr ⟨rfl, rfl⟩

/-- A decoded message encodes to the frame it was read from. -/
theorem encode_of_decode {bs : List UInt8} {m : Message} (h : decode bs = .ok m) :
    ∃ rest, bs = m.encode ++ rest := by
  unfold decode at h
  split at h
  · exact nomatch h
  · next header parsed =>
    split at h
    · exact nomatch h
    · next kind tagged =>
      split at h
      · exact nomatch h
      · next enough =>
        obtain ⟨sameKind, samePayload⟩ := decodePayload_eq_ok_iff.mp h
        match bs, parsed with
        | t :: l :: tail, parsed =>
            cases parsed
            simp only [Header.frameSize, headerSize, List.length_cons, Nat.not_lt] at enough
            simp only [headerSize, List.drop_succ_cons, List.drop_zero] at samePayload
            have width : m.payloadSize = l.toNat := by
              rw [← payload_length, samePayload, List.length_take]
              omega
            refine ⟨tail.drop l.toNat, ?_⟩
            have tagSame : m.kind.tag = t := by
              rw [sameKind]
              exact MessageKind.ofTag?_eq_some_iff.mp tagged
            have lengthSame : UInt8.ofNat m.payloadSize = l := by
              rw [width]
              exact UInt8.ofNat_toNat
            rw [encode, encodeInto, tagSame, lengthSame, samePayload]
            simp

end Message

end ThingLink
