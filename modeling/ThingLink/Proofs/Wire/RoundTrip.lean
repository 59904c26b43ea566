import ThingLink.Wire.Message

/-!
# Messages on a stream

Messages that are written one after the other read back one after the other, and
what follows them is left alone.  Nothing but the frame of a message reads as that
message, so every message has one written form.
-/

namespace ThingLink

open Text (bytes)

theorem RegisterRequest.make_eq_ok_iff {deviceId : UInt64} {deviceName : String}
    {r : RegisterRequest} :
    make deviceId deviceName = .ok r ↔ r.deviceId = deviceId ∧ r.deviceName = deviceName := by
  constructor
  · intro made
    unfold make at made
    split at made <;> cases made
    exact ⟨rfl, rfl⟩
  · rintro ⟨rfl, rfl⟩
    exact dif_pos r.name_fits

namespace Message

/-! ## Messages as they are built -/

/-- A message that can be built: every text in it has passed the check of the
constructor that takes it. -/
inductive Built : Message → Prop where
  | registerRequest {deviceId : UInt64} {deviceName : String} {r : RegisterRequest}
      (made : RegisterRequest.make deviceId deviceName = .ok r) : Built (.registerRequest r)
  | verdict (code : ResultCode) : Built (.registerResponse ⟨code, none⟩)
  | issued (code : ResultCode) {uuid token : String} {c : Credentials}
      (made : Credentials.make uuid token = .ok c) : Built (.registerResponse ⟨code, some c⟩)
  | authRequest {uuid token : String} {c : Credentials}
      (made : Credentials.make uuid token = .ok c) : Built (.authRequest ⟨c⟩)
  | authResponse (code : ResultCode) : Built (.authResponse ⟨code⟩)

theorem built (m : Message) : Built m := by
  cases m with
  | registerRequest r => exact .registerRequest (RegisterRequest.make_eq_ok_iff.mpr ⟨rfl, rfl⟩)
  | registerResponse r =>
    obtain ⟨code, credentials⟩ := r
    cases credentials with
    | none => exact .verdict code
    | some c => exact .issued code (Credentials.make_eq_ok_iff.mpr ⟨rfl, rfl⟩)
  | authRequest r => exact .authRequest (Credentials.make_eq_ok_iff.mpr ⟨rfl, rfl⟩)
  | authResponse r => exact .authResponse r.result

/-! ## Reading a row of messages -/

def readNext (stream : List UInt8) : Except DecodeError (Message × List UInt8) :=
  match decode stream with
  | .error e => .error e
  | .ok m =>
      match Header.parse? stream with
      | none => .error (.truncated headerSize stream.length)
      | some header => .ok (m, stream.drop header.frameSize)

/-- Reads so many messages, one after the other, and what is left behind them. -/
def readMany : Nat → List UInt8 → Except DecodeError (List Message × List UInt8)
  | 0, stream => .ok ([], stream)
  | count + 1, stream =>
      match readNext stream with
      | .error e => .error e
      | .ok (m, rest) => (readMany count rest).map fun (ms, rest) => (m :: ms, rest)

@[simp] theorem readNext_encode_append (m : Message) (rest : List UInt8) :
    readNext (m.encode ++ rest) = .ok (m, rest) := by
  simp only [readNext, decode_encode_append, parse?_encode_append, frameSize_encode,
    List.drop_left]

theorem foldl_encodeInto (buffer : List UInt8) (messages : List Message) :
    messages.foldl encodeInto buffer = buffer ++ messages.flatMap encode := by
  induction messages generalizing buffer with
  | nil => simp
  | cons m messages inductionHypothesis =>
    rw [List.foldl_cons, inductionHypothesis, encodeInto_eq, List.flatMap_cons, List.append_assoc]

theorem readMany_flatMap_encode (messages : List Message) (rest : List UInt8) :
    readMany messages.length (messages.flatMap encode ++ rest) = .ok (messages, rest) := by
  induction messages with
  | nil => rfl
  | cons m messages inductionHypothesis =>
    -- everything behind the first frame is the rest that its reader leaves alone
    rw [List.flatMap_cons, List.append_assoc, List.length_cons]
    simp only [readMany, readNext_encode_append, inductionHypothesis, Except.map]

theorem length_byte_encode (m : Message) :
    m.encode[1]?.map UInt8.toNat = some m.payloadSize := by
  change some (UInt8.ofNat m.payloadSize).toNat = _
  rw [toNat_ofNat_payloadSize]

theorem encode_length_le (m : Message) : m.encode.length ≤ 79 := by
  have := payloadSize_le m
  simp only [Credentials.wireSize, uuidSize, tokenSize] at this
  rw [encode_length, headerSize]
  omega

/-- A row of messages reads back from the buffer it was written to, up to the first
byte that follows it, and every frame in the buffer has the size it announces. -/
theorem readMany_foldl_encodeInto (messages : List Message) (rest : List UInt8) :
    readMany messages.length (messages.foldl encodeInto [] ++ rest) = .ok (messages, rest)
      ∧ ∀ m : Message,
        m.encode.length = headerSize + m.payloadSize
          ∧ m.encode[1]?.map UInt8.toNat = some m.payloadSize
          ∧ m.encode.length ≤ 79
          ∧ decode (m.encode ++ rest) = .ok m := by
  constructor
  · rw [foldl_encodeInto, List.nil_append]
    exact readMany_flatMap_encode messages rest
  · intro m
    exact ⟨encode_length m, length_byte_encode m, encode_length_le m, decode_encode_append m rest⟩

/-! ## Nothing else reads as a message -/

theorem decode_eq_ok_iff {stream : List UInt8} {m : Message} :
    decode stream = .ok m ↔ ∃ rest, stream = m.encode ++ rest := by
  constructor
  · exact encode_of_decode
  · rintro ⟨rest, rfl⟩
    exact decode_encode_append m rest

theorem encode_eq_take_of_decode {stream : List UInt8} {m : Message} (read : decode stream = .ok m) :
    ∃ length, stream[1]? = some length ∧ m.encode = stream.take (headerSize + length.toNat) := by
  obtain ⟨rest, rfl⟩ := encode_of_decode read
  refine ⟨UInt8.ofNat m.payloadSize, rfl, ?_⟩
  rw [toNat_ofNat_payloadSize, ← encode_length, List.take_left]

theorem encode_of_decode_frame {f : Frame} {m : Message} (read : decode f.bytes = .ok m) :
    m.encode = f.bytes := by
  obtain ⟨length, second, same⟩ := encode_eq_take_of_decode read
  cases second
  rw [same]
  exact List.take_of_length_le (Nat.le_of_eq f.size_eq)

/-- Decoding accepts exactly what encoding writes, followed by anything: a decoded
message can be built, its encoding is the frame it was read from, and no two frames
decode to one message. -/
theorem decode_accepts_encodings :
    (∀ stream m, decode stream = .ok m → Built m
      ∧ ∃ length, stream[1]? = some length ∧ m.encode = stream.take (headerSize + length.toNat))
    ∧ (∀ stream m, decode stream = .ok m ↔ Built m ∧ ∃ rest, stream = m.encode ++ rest)
    ∧ ∀ (f g : Frame) m, decode f.bytes = .ok m → decode g.bytes = .ok m → f = g := by
  refine ⟨?_, ?_, ?_⟩
  · intro stream m read
    exact ⟨built m, encode_eq_take_of_decode read⟩
  · intro stream m
    rw [decode_eq_ok_iff]
    exact ⟨fun found => ⟨built m, found⟩, fun found => found.2⟩
  · intro f g m readLeft readRight
    have same : f.bytes = g.bytes :=
      (encode_of_decode_frame readLeft).symm.trans (encode_of_decode_frame readRight)
    exact (Frame.frame_append_injective (congrArg (· ++ []) same)).1

/-- A registration request whose name is one character in two bytes, and a byte behind
its frame. -/
def accentedStream : List UInt8 :=
  [0x10, 10, 7, 0, 0, 0, 0, 0, 0, 0, 0xC3, 0xA9, 0xFF]

theorem decode_accepts_encodings_accented :
    (∃ m, decode accentedStream = .ok m ∧ Built m
      ∧ ∃ length, accentedStream[1]? = some length
        ∧ m.encode = accentedStream.take (headerSize + length.toNat))
    ∧ decode (Frame.mk 0x15 [0] (by decide)).bytes = .ok (.authResponse ⟨.success⟩)
    ∧ ∀ f : Frame, decode f.bytes = .ok (.authResponse ⟨.success⟩) → f = ⟨0x15, [0], by decide⟩ := by
  refine ⟨?_, rfl, fun f read => ?_⟩
  · have read : decode accentedStream = .ok (.registerRequest ⟨7, "é", by decide⟩) := rfl
    exact ⟨_, read, decode_accepts_encodings.1 _ _ read⟩
  · exact decode_accepts_encodings.2.2 f _ (.authResponse ⟨.success⟩) read rfl

end Message

end ThingLink
