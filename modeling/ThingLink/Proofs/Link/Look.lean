import ThingLink.Link.Receiver
import ThingLink.Link.Transport

/-!
# What a look does

`Look` lists everything that a look at a buffer can come to, one rule for each front
that the buffer can have, and `takeFrom_look` says that `Receiver.takeFrom` follows these
rules.  Facts about looks are proved by induction on `Look`.
-/

namespace ThingLink

/-- The reply that a look settles, if it settles one. -/
def Found.reply? (limit : Nat) : Found → Option Reply
  | .incomplete => none
  | .frame bytes => some (.ok bytes)
  | .tooLarge size => some (.error (.frameTooLarge size limit))

theorem Found.reply?_eq_ok_iff {limit : Nat} {found : Found} {bytes : List UInt8} :
    found.reply? limit = some (.ok bytes) ↔ found = .frame bytes := by
  cases found <;> simp [reply?]

namespace Receiver

/-- A look at a buffer with a noted size comes to a finding and leaves a receiver. -/
inductive Look (limit : Nat) : Option Nat → List UInt8 → Found × Receiver → Prop where
  | short {noted : Option Nat} {bs : List UInt8} (few : bs.length < headerSize) :
      Look limit noted bs (.incomplete, ⟨bs, 0, noted⟩)
  | cut {noted : Option Nat} {tag length : UInt8} {rest : List UInt8}
      (fits : (Header.mk tag length).frameSize ≤ limit) (few : rest.length < length.toNat) :
      Look limit noted (tag :: length :: rest) (.incomplete, ⟨tag :: length :: rest, 0, noted⟩)
  | frame {noted : Option Nat} {tag length : UInt8} {rest : List UInt8}
      (fits : (Header.mk tag length).frameSize ≤ limit) (whole : length.toNat ≤ rest.length) :
      Look limit noted (tag :: length :: rest)
        (.frame (tag :: length :: rest.take length.toNat), ⟨rest.drop length.toNat, 0, noted⟩)
  | bare {noted : Option Nat} {tag length : UInt8} {rest : List UInt8} {result : Found × Receiver}
      (large : limit < (Header.mk tag length).frameSize) (empty : length.toNat = 0)
      (further : Look limit (some (Header.mk tag length).frameSize) rest result) :
      Look limit noted (tag :: length :: rest) result
  | skipped {noted : Option Nat} {tag length : UInt8} {rest : List UInt8}
      (large : limit < (Header.mk tag length).frameSize) (few : rest.length < length.toNat) :
      Look limit noted (tag :: length :: rest)
        (.incomplete, ⟨[], length.toNat - rest.length, some (Header.mk tag length).frameSize⟩)
  | tooLarge {noted : Option Nat} {tag length : UInt8} {rest : List UInt8}
      (large : limit < (Header.mk tag length).frameSize) (nonempty : length.toNat ≠ 0)
      (whole : length.toNat ≤ rest.length) :
      Look limit noted (tag :: length :: rest)
        (.tooLarge (Header.mk tag length).frameSize, ⟨rest.drop length.toNat, 0, none⟩)

/-! ## The rules as equations -/

section Headers

variable {limit : Nat} {noted : Option Nat} {tag length : UInt8} {rest : List UInt8}

/-- A limit with room for a header lets every bare frame through. -/
theorem nonempty_of_large (minimum : headerSize ≤ limit)
    (large : limit < (Header.mk tag length).frameSize) : length.toNat ≠ 0 := by
  simp only [Header.frameSize] at large
  omega

theorem takeFrom_cut (fits : (Header.mk tag length).frameSize ≤ limit)
    (few : rest.length < length.toNat) :
    takeFrom limit noted (tag :: length :: rest)
      = (.incomplete, ⟨tag :: length :: rest, 0, noted⟩) := by
  simp only [takeFrom, if_pos fits, if_pos few]

theorem takeFrom_frame (fits : (Header.mk tag length).frameSize ≤ limit)
    (whole : length.toNat ≤ rest.length) :
    takeFrom limit noted (tag :: length :: rest)
      = (.frame (tag :: length :: rest.take length.toNat), ⟨rest.drop length.toNat, 0, noted⟩) := by
  simp only [takeFrom, if_pos fits, if_neg (Nat.not_lt.mpr whole)]

theorem takeFrom_bare (large : limit < (Header.mk tag length).frameSize)
    (empty : length.toNat = 0) :
    takeFrom limit noted (tag :: length :: rest)
      = takeFrom limit (some (Header.mk tag length).frameSize) rest := by
  rw [takeFrom]
  simp only [if_neg (Nat.not_le.mpr large), if_pos empty]

theorem takeFrom_skipped (large : limit < (Header.mk tag length).frameSize)
    (few : rest.length < length.toNat) :
    takeFrom limit noted (tag :: length :: rest)
      = (.incomplete,
        ⟨[], length.toNat - rest.length, some (Header.mk tag length).frameSize⟩) := by
  simp only [takeFrom, if_neg (Nat.not_le.mpr large), if_neg (Nat.ne_zero_of_lt few), if_pos few]

theorem takeFrom_tooLarge (large : limit < (Header.mk tag length).frameSize)
    (nonempty : length.toNat ≠ 0) (whole : length.toNat ≤ rest.length) :
    takeFrom limit noted (tag :: length :: rest)
      = (.tooLarge (Header.mk tag length).frameSize, ⟨rest.drop length.toNat, 0, none⟩) := by
  simp only [takeFrom, if_neg (Nat.not_le.mpr large), if_neg nonempty,
    if_neg (Nat.not_lt.mpr whole)]

theorem takeFrom_look (limit : Nat) :
    ∀ (noted : Option Nat) (bs : List UInt8), Look limit noted bs (takeFrom limit noted bs)
  | noted, [] => .short (Nat.zero_lt_succ 1)
  | noted, [_] => .short (Nat.lt_succ_self 1)
  | noted, tag :: length :: rest => by
    by_cases fits : (Header.mk tag length).frameSize ≤ limit
    · by_cases few : rest.length < length.toNat
      · rw [takeFrom_cut fits few]
        exact .cut fits few
      · rw [takeFrom_frame fits (Nat.not_lt.mp few)]
        exact .frame fits (Nat.not_lt.mp few)
    · have large := Nat.lt_of_not_le fits
      by_cases empty : length.toNat = 0
      · rw [takeFrom_bare large empty]
        exact .bare large empty (takeFrom_look limit _ rest)
      · by_cases few : rest.length < length.toNat
        · rw [takeFrom_skipped large few]
          exact .skipped large few
        · rw [takeFrom_tooLarge large empty (Nat.not_lt.mp few)]
          exact .tooLarge large empty (Nat.not_lt.mp few)

end Headers

/-! ## Looks while a frame is being skipped -/

section Skipping

variable {limit skipping : Nat} {buffer : List UInt8} {noted : Option Nat}

theorem take_skipped (few : buffer.length < skipping) :
    take limit ⟨buffer, skipping, noted⟩
      = (.incomplete, ⟨[], skipping - buffer.length, noted⟩) := by
  simp only [take, if_neg (Nat.ne_zero_of_lt few), if_pos few]

theorem take_tooLarge {size : Nat} (positive : 0 < skipping) (enough : skipping ≤ buffer.length) :
    take limit ⟨buffer, skipping, some size⟩ = (.tooLarge size, ⟨buffer.drop skipping, 0, none⟩) := by
  simp only [take, if_neg (Nat.ne_of_gt positive), if_neg (Nat.not_lt.mpr enough)]

theorem take_leftBehind (enough : skipping ≤ buffer.length) :
    take limit ⟨buffer, skipping, none⟩ = takeFrom limit none (buffer.drop skipping) := by
  by_cases boundary : skipping = 0
  · subst boundary
    rfl
  · simp only [take, if_neg boundary, if_neg (Nat.not_lt.mpr enough)]

end Skipping

/-! ## Looks that find a frame -/

/-- A frame that is found is as long as its header announces, and within the limit. -/
theorem Look.frame_measured {limit : Nat} {noted : Option Nat} {bs bytes : List UInt8}
    {result : Found × Receiver} (look : Look limit noted bs result)
    (found : result.1 = .frame bytes) :
    ∃ header, Header.parse? bytes = some header
      ∧ bytes.length = header.frameSize
      ∧ header.frameSize ≤ limit := by
  induction look with
  | frame fits whole =>
    cases found
    refine ⟨_, rfl, ?_, fits⟩
    simp only [Header.frameSize, headerSize, List.length_cons, List.length_take_of_le whole]
    omega
  | bare large empty further inductionHypothesis => exact inductionHypothesis found
  | short few => cases found
  | cut fits few => cases found
  | skipped large few => cases found
  | tooLarge large nonempty whole => cases found

/-- While a frame is being skipped, nothing is found but by a look behind it. -/
theorem exists_look_of_frame {limit : Nat} {r : Receiver} {bytes : List UInt8}
    (found : (r.take limit).1 = .frame bytes) :
    ∃ noted bs, Look limit noted bs (r.take limit) := by
  obtain ⟨buffer, skipping, noted⟩ := r
  by_cases few : buffer.length < skipping
  · rw [take_skipped few] at found
    cases found
  · have enough : skipping ≤ buffer.length := Nat.not_lt.mp few
    cases noted with
    | none =>
      rw [take_leftBehind enough]
      exact ⟨none, _, takeFrom_look limit none _⟩
    | some size =>
      by_cases boundary : skipping = 0
      · subst boundary
        exact ⟨some size, _, takeFrom_look limit (some size) buffer⟩
      · rw [take_tooLarge (Nat.pos_of_ne_zero boundary) enough] at found
        cases found

theorem frame_measured {limit : Nat} {r : Receiver} {bytes : List UInt8}
    (found : (r.take limit).1 = .frame bytes) :
    ∃ header, Header.parse? bytes = some header
      ∧ bytes.length = header.frameSize
      ∧ header.frameSize ≤ limit := by
  obtain ⟨noted, bs, look⟩ := exists_look_of_frame found
  exact look.frame_measured found

/-- Only a receiver whose limit has room for a header finds a frame. -/
theorem headerSize_le_of_frame {limit : Nat} {r : Receiver} {bytes : List UInt8}
    (found : (r.take limit).1 = .frame bytes) : headerSize ≤ limit := by
  obtain ⟨header, -, -, fits⟩ := frame_measured found
  exact Nat.le_trans (Nat.le_add_right ..) fits

end Receiver

end ThingLink
