import ThingLink.Wire.Message

/-!
# Decoding a buffer that grows

How many bytes a message needs is told by its first two bytes.  `Message.decode` says that bytes
are missing for exactly as long as they are, whatever else is wrong with the message, and an
answer that it has given without missing bytes stays what it is when more bytes come.
-/

namespace ThingLink

/-- That an answer only says that bytes are missing. -/
def Truncated {α : Type} (answer : Except DecodeError α) : Prop :=
  ∃ needed available, answer = .error (.truncated needed available)

@[simp] theorem truncated_map {α β : Type} (f : α → β) (answer : Except DecodeError α) :
    Truncated (answer.map f) ↔ Truncated answer := by
  cases answer <;> simp [Truncated, Except.map]

/-! ## Payloads are complete -/

theorem ResultCode.not_truncated_ofByte (b : UInt8) : ¬Truncated (ofByte b) := by
  unfold ofByte
  split <;> simp [Truncated]

theorem Credentials.not_truncated_ofWire {payload : List UInt8}
    (sized : payload.length = wireSize) : ¬Truncated (ofWire payload sized) := by
  unfold ofWire ofParts
  -- every check has an error of its own, and none is about how much there is
  repeat' split
  all_goals simp [Truncated]

namespace Message

section Payloads

variable (p : List UInt8)

theorem not_truncated_decodeRegisterRequest : ¬Truncated (decodeRegisterRequest p) := by
  unfold decodeRegisterRequest
  split
  · simp [Truncated]
  · split <;> simp [Truncated]

theorem not_truncated_decodeRegisterResponse : ¬Truncated (decodeRegisterResponse p) := by
  unfold decodeRegisterResponse
  split
  · simp [ResultCode.not_truncated_ofByte]
  · next b rest _ =>
    split
    · next sized =>
      have verdict := ResultCode.not_truncated_ofByte b
      cases read : ResultCode.ofByte b with
      | error e => simpa [read, Truncated] using verdict
      | ok code => simp [Credentials.not_truncated_ofWire sized]
    · simp [Truncated]
  · simp [Truncated]

theorem not_truncated_decodeAuthRequest : ¬Truncated (decodeAuthRequest p) := by
  unfold decodeAuthRequest
  split
  · next sized => simp [Credentials.not_truncated_ofWire sized]
  · simp [Truncated]

theorem not_truncated_decodeAuthResponse : ¬Truncated (decodeAuthResponse p) := by
  unfold decodeAuthResponse
  split
  · simp [ResultCode.not_truncated_ofByte]
  · simp [Truncated]

/-- A payload that is there as a whole is never said to be cut short. -/
theorem not_truncated_decodePayload (kind : MessageKind) : ¬Truncated (decodePayload kind p) := by
  cases kind <;>
    simp [decodePayload, not_truncated_decodeRegisterRequest,
      not_truncated_decodeRegisterResponse, not_truncated_decodeAuthRequest,
      not_truncated_decodeAuthResponse]

end Payloads

/-! ## How many bytes are needed -/

/-- How many bytes decoding needs, as far as the bytes that are there tell: a header, and behind
a tag with a meaning the whole frame. -/
def needs (bs : List UInt8) : Nat :=
  match Header.parse? bs with
  | none => headerSize
  | some h => if (MessageKind.ofTag? h.tag).isSome then h.frameSize else headerSize

section Needs

variable {bs : List UInt8}

theorem needs_of_short (short : bs.length < headerSize) : needs bs = headerSize := by
  simp [needs, Header.parse?_eq_none_iff.mpr short]

theorem needs_append (headed : headerSize ≤ bs.length) (more : List UInt8) :
    needs (bs ++ more) = needs bs := by
  cases parsed : Header.parse? bs with
  | none =>
    have short := Header.parse?_eq_none_iff.mp parsed
    omega
  | some h => simp [needs, parsed, Header.parse?_append parsed]

theorem headerSize_le_needs (bs : List UInt8) : headerSize ≤ needs bs := by
  unfold needs
  split
  · simp
  · split <;> simp [Header.frameSize]

/-- What decoding does, told by the number of bytes that it needs. -/
theorem decode_cases (bs : List UInt8) :
    (bs.length < needs bs ∧ decode bs = .error (.truncated (needs bs) bs.length))
      ∨ (needs bs ≤ bs.length ∧ ¬Truncated (decode bs)
        ∧ ∀ more, decode (bs ++ more) = decode bs) := by
  cases parsed : Header.parse? bs with
  | none =>
    have short := Header.parse?_eq_none_iff.mp parsed
    simp [decode, needs, parsed, short]
  | some h =>
    have headed : headerSize ≤ bs.length := by
      apply Nat.le_of_not_lt
      intro short
      simp [Header.parse?_eq_none_iff.mpr short] at parsed
    cases known : MessageKind.ofTag? h.tag with
    -- a tag without a meaning is reported with the header, and the header stays
    | none =>
      right
      simp [decode, needs, parsed, Header.parse?_append parsed, known, headed, Truncated]
    | some kind =>
      by_cases missing : bs.length < h.frameSize
      · left
        simp [decode, needs, parsed, known, missing]
      · right
        have whole : h.frameSize ≤ bs.length := Nat.le_of_not_lt missing
        have payload (more : List UInt8) :
            ((bs ++ more).drop headerSize).take h.length.toNat
              = (bs.drop headerSize).take h.length.toNat := by
          rw [List.drop_append_of_le_length headed, List.take_append_of_le_length]
          simp only [Header.frameSize] at whole
          simp only [List.length_drop]
          omega
        have still (more : List UInt8) : ¬(bs ++ more).length < h.frameSize := by
          simp only [List.length_append]
          omega
        have answer :
            decode bs = decodePayload kind ((bs.drop headerSize).take h.length.toNat) := by
          simp [decode, parsed, known, missing]
        refine ⟨by simpa [needs, parsed, known] using whole, ?_, ?_⟩
        · rw [answer]
          exact not_truncated_decodePayload _ kind
        · intro more
          rw [answer]
          simp only [decode, Header.parse?_append parsed, known, if_neg (still more), payload]

theorem decode_eq_truncated_iff {needed available : Nat} :
    decode bs = .error (.truncated needed available)
      ↔ needed = needs bs ∧ available = bs.length ∧ bs.length < needs bs := by
  rcases decode_cases bs with ⟨missing, cut⟩ | ⟨enough, final, -⟩
  · simp [cut, missing, eq_comm]
  · constructor
    · intro cut
      exact absurd ⟨needed, available, cut⟩ final
    · rintro ⟨-, -, missing⟩
      omega

theorem truncated_decode_iff : Truncated (decode bs) ↔ bs.length < needs bs := by
  constructor
  · rintro ⟨needed, available, cut⟩
    exact (decode_eq_truncated_iff.mp cut).2.2
  · intro missing
    exact ⟨_, _, decode_eq_truncated_iff.mpr ⟨rfl, rfl, missing⟩⟩

/-- Of a frame that is as long as its header announces, nothing is missing. -/
theorem not_truncated_of_whole {h : Header} (parsed : Header.parse? bs = some h)
    (whole : h.frameSize ≤ bs.length) : ¬Truncated (decode bs) := by
  have least : headerSize ≤ h.frameSize := Nat.le_add_right ..
  rw [truncated_decode_iff, needs, parsed]
  dsimp only
  split <;> omega

theorem needs_encode (m : Message) : needs m.encode = m.encode.length := by
  have parsed := m.parse?_encode_append []
  rw [List.append_nil] at parsed
  simp only [needs, parsed, MessageKind.ofTag?_tag, Option.isSome_some, if_true, frameSize_encode]

end Needs

/-! ## Readers that wait -/

/-- That a reader who holds these bytes, and who waits for the bytes that are needed whenever some
are missing, has an answer that stays after so many waits. -/
def AnswersWithin : (waits : Nat) → (held : List UInt8) → Prop
  | 0, held => ¬Truncated (decode held)
  | waits + 1, held =>
      ∀ needed available, decode held = .error (.truncated needed available) →
        ∀ more, needed ≤ (held ++ more).length → AnswersWithin waits (held ++ more)

/-- With the header there, one wait is enough. -/
theorem answersWithin_one {held : List UInt8} (headed : headerSize ≤ held.length) :
    AnswersWithin 1 held := by
  intro needed available cut more enough
  obtain ⟨rfl, -, -⟩ := decode_eq_truncated_iff.mp cut
  show ¬Truncated (decode (held ++ more))
  rw [truncated_decode_iff, needs_append headed]
  omega

/-- Decoding may be tried on whatever has come.  An answer that does not say that bytes are missing
is the answer for every longer buffer.  Else the answer says how many bytes there are and how many
are needed, it says the same of every longer buffer that has fewer, and it ends with them, unless
not even the header was there.  So what is there of a message that is not there as a whole is
always cut short, and a reader who waits for what is needed waits at most twice. -/
theorem decode_incremental (bs : List UInt8) :
    (¬Truncated (decode bs) → ∀ more, decode (bs ++ more) = decode bs)
      ∧ (∀ needed available, decode bs = .error (.truncated needed available) →
          available = bs.length
            ∧ bs.length < needed
            ∧ (∀ more, (bs ++ more).length < needed →
                decode (bs ++ more) = .error (.truncated needed (bs ++ more).length))
            ∧ (headerSize ≤ bs.length →
                ∀ more, needed ≤ (bs ++ more).length → ¬Truncated (decode (bs ++ more)))
            ∧ (bs.length < headerSize → needed = headerSize))
      ∧ (∀ (m : Message) (rest : List UInt8), m.encode = bs ++ rest → rest ≠ [] →
          Truncated (decode bs))
      ∧ AnswersWithin 2 bs := by
  refine ⟨?_, ?_, ?_, ?_⟩
  · intro final more
    rcases decode_cases bs with ⟨-, cut⟩ | ⟨-, -, stays⟩
    · exact absurd ⟨_, _, cut⟩ final
    · exact stays more
  · intro needed available cut
    obtain ⟨rfl, rfl, missing⟩ := decode_eq_truncated_iff.mp cut
    refine ⟨rfl, missing, ?_, ?_, needs_of_short⟩
    · intro more fewer
      have same : needs (bs ++ more) = needs bs := by
        by_cases headed : headerSize ≤ bs.length
        · exact needs_append headed more
        · -- there is no header yet, and fewer bytes than a header do not make one
          have short : bs.length < headerSize := Nat.lt_of_not_le headed
          rw [needs_of_short short] at fewer ⊢
          exact needs_of_short fewer
      exact decode_eq_truncated_iff.mpr ⟨same.symm, rfl, by omega⟩
    · intro headed
      exact answersWithin_one headed _ _ cut
  · intro m rest split nonempty
    apply truncated_decode_iff.mpr
    have lengths := congrArg List.length split
    have behind := List.length_pos_iff.mpr nonempty
    have whole := needs_encode m
    rw [List.length_append] at lengths
    by_cases headed : headerSize ≤ bs.length
    · rw [split, needs_append headed, ← split] at whole
      omega
    · have least := headerSize_le_needs bs
      omega
  · intro needed available cut more enough
    obtain ⟨rfl, -, -⟩ := decode_eq_truncated_iff.mp cut
    -- the first wait is for the header at least
    have least := headerSize_le_needs bs
    exact answersWithin_one (by omega)

/-- Of a verdict with an unknown code, the header alone and one byte of it are cut short, and the
whole is refused for good. -/
theorem decode_incremental_verdict :
    decode [0x15] = .error (.truncated 2 1)
      ∧ decode [0x15, 1] = .error (.truncated 3 2)
      ∧ ¬Truncated (decode [0x15, 1, 9])
      ∧ decode [0x15, 1, 9, 0x15] = .error (.unknownResult 9)
      ∧ Truncated (decode [0x15, 1]) := by
  have first : decode [0x15] = .error (.truncated 2 1) := rfl
  have second : decode [0x15, 1] = .error (.truncated 3 2) := rfl
  obtain ⟨-, cut, -, waits⟩ := decode_incremental [0x15]
  obtain ⟨-, -, still, -, -⟩ := cut 2 1 first
  have final : ¬Truncated (decode [0x15, 1, 9]) :=
    waits 2 1 first [1] (by decide) 3 2 second [9] (by decide)
  obtain ⟨stays, -, -, -⟩ := decode_incremental [0x15, 1, 9]
  obtain ⟨-, -, message, -⟩ := decode_incremental [0x15, 1]
  exact ⟨still [] (by decide), second, final, stays final [0x15],
    message (.authResponse ⟨.success⟩) [0] rfl (by decide)⟩

end Message

end ThingLink
