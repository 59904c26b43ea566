import ThingLink.Proofs.Documents.Stored
import ThingLink.Wire.Message

/-!
# Three ways to credentials

Credentials are made from two texts, read from a payload, or read from a JSON object.  The three
ways look at the same things in different orders, and each accepts what the others accept: a UUID
in its hyphenated form and a token of ASCII characters.
-/

namespace ThingLink

open Text (bytes)

/-! ## The form of a UUID -/

/-- A hexadecimal digit of either case. -/
def HexDigit (b : UInt8) : Prop :=
  ('0'.toUInt8 ≤ b ∧ b ≤ '9'.toUInt8) ∨ ('A'.toUInt8 ≤ b ∧ b ≤ 'F'.toUInt8)
    ∨ ('a'.toUInt8 ≤ b ∧ b ≤ 'f'.toUInt8)

/-- The hyphenated form of a UUID: five groups of digits, of which the first hyphen stands behind
eight digits. -/
structure Hyphenated (bs : List UInt8) : Prop where
  length : bs.length = 36
  ascii : ∀ b ∈ bs, b < 0x80
  hyphens : ∀ offset ∈ [8, 13, 18, 23], bs[offset]? = some '-'.toUInt8
  digits : ∀ offset b, bs[offset]? = some b → offset ∉ [8, 13, 18, 23] → HexDigit b

theorem isHexDigit_iff (b : UInt8) : isHexDigit b = true ↔ HexDigit b := by
  simp only [isHexDigit, HexDigit, Bool.or_eq_true, Bool.and_eq_true, decide_eq_true_eq, or_assoc]
  rfl

theorem isAscii_iff (bs : List UInt8) : isAscii bs = true ↔ ∀ b ∈ bs, b < 0x80 := by
  simp [isAscii]

theorem isUuid_iff (bs : List UInt8) : isUuid bs = true ↔ Hyphenated bs := by
  constructor
  · intro valid
    have sized := length_of_isUuid valid
    have ascii := (isAscii_iff bs).mp (isAscii_of_isUuid valid)
    simp only [isUuid, Bool.and_eq_true, List.all_eq_true] at valid
    have placed (offset : Nat) (b : UInt8) (found : bs[offset]? = some b) :
        uuidByteAt offset b = true :=
      valid.2 (b, offset) (List.mem_zipIdx_iff_getElem?.mpr found)
    refine ⟨sized, ascii, ?_, ?_⟩
    · intro offset member
      have inside : offset < bs.length := by
        simp only [sized, uuidSize]
        simp only [List.mem_cons, List.not_mem_nil, or_false] at member
        omega
      have found := List.getElem?_eq_getElem inside
      have hyphen := placed _ _ found
      rw [uuidByteAt, if_pos (by simpa [hyphenOffsets] using member)] at hyphen
      rw [found, eq_of_beq hyphen]
      rfl
    · intro offset b found other
      have digit := placed offset b found
      rw [uuidByteAt, if_neg (by simpa [hyphenOffsets] using other)] at digit
      exact (isHexDigit_iff b).mp digit
  · intro form
    simp only [isUuid, Bool.and_eq_true, List.all_eq_true, beq_iff_eq]
    refine ⟨form.length, ?_⟩
    rintro ⟨b, offset⟩ member
    have found := List.mem_zipIdx_iff_getElem?.mp member
    by_cases hyphen : offset ∈ [8, 13, 18, 23]
    · have same := (form.hyphens offset hyphen).symm.trans found
      rw [uuidByteAt, if_pos (by simpa [hyphenOffsets] using hyphen)]
      exact beq_iff_eq.mpr (Option.some.inj same).symm
    · rw [uuidByteAt, if_neg (by simpa [hyphenOffsets] using hyphen)]
      exact (isHexDigit_iff b).mpr (form.digits offset b found hyphen)

namespace Credentials

/-! ## From two texts -/

theorem exists_make_eq_ok_iff (uuid token : String) :
    (∃ c, make uuid token = .ok c)
      ↔ Hyphenated (bytes uuid) ∧ (bytes token).length = 40 ∧ ∀ b ∈ bytes token, b < 0x80 := by
  constructor
  · rintro ⟨c, made⟩
    obtain ⟨rfl, rfl⟩ := make_eq_ok_iff.mp made
    exact ⟨(isUuid_iff _).mp c.uuid_valid, c.token_length,
      (isAscii_iff _).mp (isAscii_of_isToken c.token_valid)⟩
  · rintro ⟨form, sized, ascii⟩
    have token_valid : isToken (bytes token) = true := by
      simp [isToken, isFixedAscii, tokenSize, sized, (isAscii_iff _).mpr ascii]
    exact ⟨⟨uuid, token, (isUuid_iff _).mpr form, token_valid⟩, make_eq_ok_iff.mpr ⟨rfl, rfl⟩⟩

/-! ## From a payload -/

/-- That a payload is ASCII, and that its first 36 characters and the others make credentials. -/
def Spelled (payload : List UInt8) (c : Credentials) : Prop :=
  (∀ b ∈ payload, b < 0x80)
    ∧ ∃ uuid token, bytes uuid = payload.take 36 ∧ bytes token = payload.drop 36
      ∧ make uuid token = .ok c

theorem wire_eq_iff {payload : List UInt8} {c : Credentials} :
    c.wire = payload ↔ Spelled payload c := by
  constructor
  · rintro rfl
    refine ⟨?_, c.uuid, c.token, ?_, ?_, make_eq_ok_iff.mpr ⟨rfl, rfl⟩⟩
    · have uuid := (isAscii_iff _).mp (isAscii_of_isUuid c.uuid_valid)
      have token := (isAscii_iff _).mp (isAscii_of_isToken c.token_valid)
      intro b member
      rcases List.mem_append.mp member with inUuid | inToken
      · exact uuid b inUuid
      · exact token b inToken
    · exact (List.take_left' c.uuid_length).symm
    · exact (List.drop_left' c.uuid_length).symm
  · rintro ⟨-, uuid, token, front, back, made⟩
    obtain ⟨rfl, rfl⟩ := make_eq_ok_iff.mp made
    rw [wire, front, back, List.take_append_drop]

end Credentials

namespace Message

/-- A message that is read from a whole frame is the one that has its payload. -/
theorem decode_frame_iff {kind : MessageKind} {length : UInt8} {payload : List UInt8} {m : Message}
    (sized : payload.length = length.toNat) :
    decode (kind.tag :: length :: payload) = .ok m ↔ m.kind = kind ∧ m.payload = payload := by
  have whole : ¬(kind.tag :: length :: payload).length < (Header.mk kind.tag length).frameSize := by
    simp only [List.length_cons, Header.frameSize, headerSize]
    omega
  rw [← decodePayload_eq_ok_iff]
  simp only [decode, Header.parse?, MessageKind.ofTag?_tag, if_neg whole, headerSize,
    List.drop_succ_cons, List.drop_zero, ← sized, List.take_length]

theorem decode_authRequest_iff {payload : List UInt8} (sized : payload.length = 76) (m : Message) :
    decode (0x14 :: 76 :: payload) = .ok m
      ↔ ∃ c, Credentials.Spelled payload c ∧ m = .authRequest ⟨c⟩ := by
  have read : decode (MessageKind.authRequest.tag :: 76 :: payload) = .ok m ↔ _ :=
    decode_frame_iff sized
  rw [show MessageKind.authRequest.tag = 0x14 from rfl] at read
  rw [read]
  constructor
  · rintro ⟨kind, same⟩
    cases m with
    | authRequest request => exact ⟨request.credentials, Credentials.wire_eq_iff.mp same, rfl⟩
    | _ => cases kind
  · rintro ⟨c, spelled, rfl⟩
    exact ⟨rfl, Credentials.wire_eq_iff.mpr spelled⟩

theorem decode_registerResponse_iff {payload : List UInt8} {verdict : UInt8} {code : ResultCode}
    (sized : payload.length = 76) (known : ResultCode.ofByte verdict = .ok code) (m : Message) :
    decode (0x11 :: 77 :: verdict :: payload) = .ok m
      ↔ ∃ c, Credentials.Spelled payload c ∧ m = .registerResponse ⟨code, some c⟩ := by
  have longer : (verdict :: payload).length = (77 : UInt8).toNat := congrArg Nat.succ sized
  have read : decode (MessageKind.registerResponse.tag :: 77 :: verdict :: payload) = .ok m ↔ _ :=
    decode_frame_iff longer
  rw [show MessageKind.registerResponse.tag = 0x11 from rfl] at read
  rw [read]
  have byte := ResultCode.ofByte_eq_ok_iff.mp known
  constructor
  · rintro ⟨kind, same⟩
    cases m with
    | registerResponse response =>
      obtain ⟨result, issued⟩ := response
      simp only [Message.payload, List.cons.injEq] at same
      have verdicts : result = code := by
        have again := ResultCode.ofByte_eq_ok_iff.mpr same.1
        exact Except.ok.inj (again.symm.trans known)
      subst verdicts
      cases issued with
      | none =>
        -- a verdict alone would leave nothing for the other 76 bytes
        have empty := congrArg List.length same.2
        simp [sized] at empty
      | some c => exact ⟨c, Credentials.wire_eq_iff.mp same.2, rfl⟩
    | _ => cases kind
  · rintro ⟨c, spelled, rfl⟩
    exact ⟨rfl, by simp [Message.payload, byte, Credentials.wire_eq_iff.mpr spelled]⟩

end Message

/-! ## From a JSON object -/

namespace Json

/-- That a tree is an object of two members with these keys and strings, however spelled. -/
inductive Tree.Members (first second : String × String) : Tree → Prop
  | spelled {k v l w : StringText} (firstKey : k.decode = .ok first.1)
      (firstValue : v.decode = .ok first.2) (secondKey : l.decode = .ok second.1)
      (secondValue : w.decode = .ok second.2) :
      Members first second
        (.object (.entry (.text k) (.text v) (.entry (.text l) (.text w) (.finish none))))

/-- That a tree is an object with these two strings, whichever comes first. -/
def Tree.Holds (uuid token : String) (tree : Tree) : Prop :=
  tree.Members ("uuid", uuid) ("token", token) ∨ tree.Members ("token", token) ("uuid", uuid)

/-- The text of an object with two members, with blanks before its members and at its end. -/
def objectText (gap : List Char) (first second : String × String) : List Char :=
  '{' :: (gap ++ memberText first.1 first.2
    (',' :: (gap ++ memberText second.1 second.2 (gap ++ '}' :: gap))))

section Texts

variable {gap : List Char} (blank : gap.all isSpace) (first second : String × String)

include blank

theorem scanTree_objectText (fuel : Nat) :
    ∃ tree : Tree, tree.Members first second
      ∧ scanTree (fuel + 4) (objectText gap first second) = (tree, gap) := by
  have brace : skipSpace (gap ++ '}' :: gap) = '}' :: gap := by
    rw [skipSpace_append blank, skipSpace_cons rfl]
  obtain ⟨l, w, secondKey, secondValue, last⟩ := scanEntries_last fuel second.1 second.2 brace
  obtain ⟨k, v, firstKey, firstValue, entries⟩ := scanEntries_more (fuel + 1) first.1 first.2
    (gap ++ memberText second.1 second.2 (gap ++ '}' :: gap))
  rw [scanEntries_gap (fuel + 2) blank, last] at entries
  refine ⟨_, .spelled firstKey firstValue secondKey secondValue, ?_⟩
  rw [objectText, scanTree_object (fuel + 3) first.1 first.2 blank, entries]

theorem ofText_objectText :
    ∃ tree : Tree, tree.Members first second
      ∧ Tree.ofText (objectText gap first second) = (tree, gap) := by
  -- the fuel is measured by the text, and two members need four units of it
  obtain ⟨rest, opened⟩ : ∃ rest, objectText gap first second = '{' :: rest := ⟨_, rfl⟩
  have fuel : 2 * (objectText gap first second).length + 2 = 2 * rest.length + 4 := by
    rw [opened, List.length_cons]
    omega
  rw [Tree.ofText, fuel]
  exact scanTree_objectText blank first second (2 * rest.length)

end Texts

end Json

namespace Credentials

open Json

section Objects

variable {uuid token : String} {tree : Tree}

theorem read_of_holds {room : Nat} (inside : 0 < room) (holds : tree.Holds uuid token) :
    shape.read room tree = .ok (uuid, token) := by
  rcases holds with ⟨first, value, second, other⟩ | ⟨first, value, second, other⟩
  · exact read_shape inside first value second other
  · obtain ⟨room, rfl⟩ := Nat.exists_eq_succ_of_ne_zero (Nat.ne_of_gt inside)
    simp [Shape.read, Shape.readEntries, Tree.key, first, second, shape, Tree.asText, value, other,
      raise, required, bind, Except.bind, pure, Except.pure, Except.map]

theorem ofTree_iff {room : Nat} (inside : 0 < room) (holds : tree.Holds uuid token)
    (c : Credentials) : ofTree room tree = .ok c ↔ make uuid token = .ok c := by
  rw [ofTree, read_of_holds inside holds]
  simp only [bind, Except.bind]
  cases make uuid token with
  | ok made => simp [pure, Except.pure]
  | error e => simp

theorem ofDocument_iff {text : String} {rest : List Char}
    (scanned : Tree.ofText text.toList = (tree, rest)) (alone : skipSpace rest = [])
    (holds : tree.Holds uuid token) (c : Credentials) :
    ofDocument text = .ok c ↔ make uuid token = .ok c := by
  have inside : 0 < maxNesting := by decide
  rw [← ofTree_iff inside holds c, ofDocument, readDocument, scanned]
  simp only [bind, Except.bind, alone, List.isEmpty_nil, if_true]
  cases ofTree maxNesting tree <;> simp

theorem ofDocument_objectText_iff {gap : List Char} (blank : gap.all isSpace) (c : Credentials) :
    (ofDocument (String.ofList (objectText gap ("uuid", uuid) ("token", token))) = .ok c
        ↔ make uuid token = .ok c)
      ∧ (ofDocument (String.ofList (objectText gap ("token", token) ("uuid", uuid))) = .ok c
        ↔ make uuid token = .ok c) := by
  have alone : skipSpace gap = [] := by
    have nothing := skipSpace_append blank []
    rw [List.append_nil] at nothing
    rw [nothing]
    rfl
  constructor
  · obtain ⟨tree, members, scanned⟩ := ofText_objectText blank ("uuid", uuid) ("token", token)
    rw [← String.toList_ofList (l := objectText gap _ _)] at scanned
    exact ofDocument_iff scanned alone (.inl members) c
  · obtain ⟨tree, members, scanned⟩ := ofText_objectText blank ("token", token) ("uuid", uuid)
    rw [← String.toList_ofList (l := objectText gap _ _)] at scanned
    exact ofDocument_iff scanned alone (.inr members) c

end Objects

/-- The ways to credentials agree.  Two texts make credentials if the first one is a hyphenated
UUID and the second one is forty ASCII characters.  A payload of 76 bytes gives an authentication
request, or behind a known verdict a registration response, with exactly the credentials that its
two halves make, if it is ASCII.  A JSON object of the two strings gives exactly the credentials
that they make, in whichever order it has them and however it is spelled.  So what one way gives,
every way gives. -/
theorem gates_agree :
    (∀ uuid token, (∃ c, make uuid token = .ok c)
        ↔ Hyphenated (bytes uuid) ∧ (bytes token).length = 40 ∧ ∀ b ∈ bytes token, b < 0x80)
      ∧ (∀ payload : List UInt8, payload.length = 76 →
          (∀ m, Message.decode (0x14 :: 76 :: payload) = .ok m
              ↔ ∃ c, Spelled payload c ∧ m = .authRequest ⟨c⟩)
            ∧ ∀ verdict code, ResultCode.ofByte verdict = .ok code →
              ∀ m, Message.decode (0x11 :: 77 :: verdict :: payload) = .ok m
                ↔ ∃ c, Spelled payload c ∧ m = .registerResponse ⟨code, some c⟩)
      ∧ (∀ (text uuid token : String) (tree : Tree) (rest : List Char),
          Tree.ofText text.toList = (tree, rest) → skipSpace rest = [] → tree.Holds uuid token →
            ∀ c, ofDocument text = .ok c ↔ make uuid token = .ok c)
      -- every two strings have such objects, with any blanks before the members
      ∧ (∀ (uuid token : String) (gap : List Char), gap.all isSpace → ∀ c,
          (ofDocument (String.ofList (objectText gap ("uuid", uuid) ("token", token))) = .ok c
              ↔ make uuid token = .ok c)
            ∧ (ofDocument (String.ofList (objectText gap ("token", token) ("uuid", uuid))) = .ok c
              ↔ make uuid token = .ok c))
      ∧ ∀ c : Credentials, make c.uuid c.token = .ok c
          ∧ Message.decode (0x14 :: 76 :: c.wire) = .ok (.authRequest ⟨c⟩)
          ∧ (∀ code : ResultCode, Message.decode (0x11 :: 77 :: code.byte :: c.wire)
              = .ok (.registerResponse ⟨code, some c⟩))
          ∧ ofDocument c.document = .ok c := by
  refine ⟨exists_make_eq_ok_iff, ?_, ?_, ?_, ?_⟩
  · intro payload sized
    refine ⟨Message.decode_authRequest_iff sized, ?_⟩
    intro verdict code known
    exact Message.decode_registerResponse_iff sized known
  · intro text uuid token tree rest scanned alone holds
    exact ofDocument_iff scanned alone holds
  · intro uuid token gap blank c
    exact ofDocument_objectText_iff blank c
  · intro c
    have spelled : Spelled c.wire c := wire_eq_iff.mp rfl
    refine ⟨make_eq_ok_iff.mpr ⟨rfl, rfl⟩, ?_, ?_, c.ofDocument_document⟩
    · exact (Message.decode_authRequest_iff c.wire_length _).mpr ⟨c, spelled, rfl⟩
    · intro code
      have known : ResultCode.ofByte code.byte = .ok code := ResultCode.ofByte_eq_ok_iff.mpr rfl
      exact (Message.decode_registerResponse_iff c.wire_length known _).mpr ⟨c, spelled, rfl⟩

/-- Credentials with digits of both cases, and with quotation marks and backslashes in the token. -/
def mixedCase : Credentials :=
  ⟨"C1a0F2b4-5d6E-4f70-8a9B-0c1d2e3f4A5b", "a \"quoted\" token, \\escaped\\ with 40 byte",
    by decide, by decide⟩

theorem gates_agree_mixedCase :
    let c := mixedCase
    let document := String.ofList (objectText ['\n'] ("token", c.token) ("uuid", c.uuid))
    c.wire.length = 76
      ∧ ResultCode.ofByte 0xFD = .ok .permission
      ∧ Hyphenated (bytes c.uuid)
      ∧ Message.decode (0x14 :: 76 :: c.wire) = .ok (.authRequest ⟨c⟩)
      ∧ Message.decode (0x11 :: 77 :: 0xFD :: c.wire)
        = .ok (.registerResponse ⟨.permission, some c⟩)
      ∧ ofDocument document = .ok c := by
  intro c document
  obtain ⟨texts, payloads, objects, -, all⟩ := gates_agree
  obtain ⟨made, -⟩ := all c
  obtain ⟨requests, responses⟩ := payloads c.wire c.wire_length
  have known : ResultCode.ofByte 0xFD = .ok .permission := rfl
  have spelled : Spelled c.wire c := wire_eq_iff.mp rfl
  have blank : ['\n'].all isSpace := rfl
  obtain ⟨tree, members, scanned⟩ := ofText_objectText blank ("token", c.token) ("uuid", c.uuid)
  rw [← String.toList_ofList (l := objectText _ _ _)] at scanned
  exact ⟨c.wire_length, known, ((texts c.uuid c.token).mp ⟨c, made⟩).1,
    (requests _).mpr ⟨c, spelled, rfl⟩, (responses 0xFD .permission known _).mpr ⟨c, spelled, rfl⟩,
    (objects document c.uuid c.token tree _ scanned rfl (.inr members) c).mpr made⟩

end Credentials

end ThingLink
