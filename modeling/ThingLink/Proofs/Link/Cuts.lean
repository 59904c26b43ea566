import ThingLink.Proofs.Link.Look

/-!
# Looks cut by cut

A look takes bytes off the front of the buffer: what has come of a frame that is being skipped,
the header of an oversized frame, or a whole frame.  Behind the header of an oversized frame it
looks again.  `takeWithin?` is a look with its cuts written out: it has no result if a cut asks for
more bytes than there are, or if it would have to look again more often than it may.  Under a limit
with room for a header, looking again once is always enough (`takeWithin?_one`).
-/

namespace ThingLink

namespace Receiver

/-- Cuts a number of bytes off the front of a buffer that has so many. -/
def cut? (count : Nat) (bs : List UInt8) : Option (List UInt8 × List UInt8) :=
  if count ≤ bs.length then some (bs.splitAt count) else none

/-- A look at a buffer that starts with a header, up to the point where it finds something or has
to look again (`none`). -/
def glanceAhead? (limit : Nat) (r : Receiver) : Option (Option Found × Receiver) :=
  match Header.parse? r.buffer with
  | none => some (some .incomplete, r)
  | some header =>
      if limit < header.frameSize then do
        let (_, buffer) ← cut? headerSize r.buffer
        return (none, ⟨buffer, header.length.toNat, some header.frameSize⟩)
      else if r.buffer.length < header.frameSize then some (some .incomplete, r)
      else do
        let (bytes, buffer) ← cut? header.frameSize r.buffer
        return (some (.frame bytes), { r with buffer })

/-- A look up to the point where it finds something or has to look again. -/
def glance? (limit : Nat) (r : Receiver) : Option (Option Found × Receiver) :=
  if r.skipping = 0 then glanceAhead? limit r
  else do
    let gone := min r.skipping r.buffer.length
    let (_, buffer) ← cut? gone r.buffer
    if 0 < r.skipping - gone then
      return (some .incomplete, ⟨buffer, r.skipping - gone, r.oversized⟩)
    else
      match r.oversized with
      | some size => return (some (.tooLarge size), ⟨buffer, 0, none⟩)
      | none => glanceAhead? limit ⟨buffer, 0, none⟩

/-- A look that may look again so many times. -/
def takeWithin? (limit again : Nat) (r : Receiver) : Option (Found × Receiver) :=
  match glance? limit r, again with
  | none, _ => none
  | some (some found, r), _ => some (found, r)
  | some (none, _), 0 => none
  | some (none, r), again + 1 => takeWithin? limit again r

theorem cut?_of_le {count : Nat} {bs : List UInt8} (enough : count ≤ bs.length) :
    cut? count bs = some (bs.take count, bs.drop count) := by
  rw [cut?, if_pos enough, List.splitAt_eq]

/-! ## Glances -/

section Ahead

variable {limit : Nat} {noted : Option Nat} {tag length : UInt8} {rest : List UInt8}

theorem glanceAhead?_short {bs : List UInt8} (few : bs.length < headerSize) :
    glanceAhead? limit ⟨bs, 0, noted⟩ = some (some .incomplete, ⟨bs, 0, noted⟩) := by
  simp only [glanceAhead?, Header.parse?_eq_none_iff.mpr few]

theorem glanceAhead?_cut (fits : (Header.mk tag length).frameSize ≤ limit)
    (few : rest.length < length.toNat) :
    glanceAhead? limit ⟨tag :: length :: rest, 0, noted⟩
      = some (some .incomplete, ⟨tag :: length :: rest, 0, noted⟩) := by
  have part : (tag :: length :: rest).length < (Header.mk tag length).frameSize := by
    simp only [Header.frameSize, headerSize, List.length_cons]
    omega
  simp only [glanceAhead?, Header.parse?, if_neg (Nat.not_lt.mpr fits), if_pos part]

theorem glanceAhead?_frame (fits : (Header.mk tag length).frameSize ≤ limit)
    (whole : length.toNat ≤ rest.length) :
    glanceAhead? limit ⟨tag :: length :: rest, 0, noted⟩
      = some (some (.frame (tag :: length :: rest.take length.toNat)),
        ⟨rest.drop length.toNat, 0, noted⟩) := by
  have size : (Header.mk tag length).frameSize = length.toNat + 2 := Nat.add_comm ..
  have enough : (Header.mk tag length).frameSize ≤ (tag :: length :: rest).length := by
    simp only [size, List.length_cons]
    omega
  simp only [glanceAhead?, Header.parse?, if_neg (Nat.not_lt.mpr fits),
    if_neg (Nat.not_lt.mpr enough), cut?_of_le enough]
  rw [size]
  rfl

theorem glanceAhead?_large (large : limit < (Header.mk tag length).frameSize) :
    glanceAhead? limit ⟨tag :: length :: rest, 0, noted⟩
      = some (none, ⟨rest, length.toNat, some (Header.mk tag length).frameSize⟩) := by
  have enough : headerSize ≤ (tag :: length :: rest).length := Nat.le_add_left ..
  simp only [glanceAhead?, Header.parse?, if_pos large, cut?_of_le enough]
  rfl

end Ahead

section Skipping

variable {limit skipping : Nat} {buffer : List UInt8} {noted : Option Nat}

theorem glance?_skipped (few : buffer.length < skipping) :
    glance? limit ⟨buffer, skipping, noted⟩
      = some (some .incomplete, ⟨[], skipping - buffer.length, noted⟩) := by
  have missing : 0 < skipping - buffer.length := Nat.sub_pos_of_lt few
  simp only [glance?, if_neg (Nat.ne_zero_of_lt few), Nat.min_eq_right (Nat.le_of_lt few),
    cut?_of_le (Nat.le_refl _), List.drop_length]
  exact if_pos missing

theorem glance?_tooLarge {size : Nat} (positive : 0 < skipping)
    (enough : skipping ≤ buffer.length) :
    glance? limit ⟨buffer, skipping, some size⟩
      = some (some (.tooLarge size), ⟨buffer.drop skipping, 0, none⟩) := by
  simp only [glance?, if_neg (Nat.ne_of_gt positive), Nat.min_eq_left enough, cut?_of_le enough]
  exact if_neg (by omega)

theorem glance?_leftBehind (enough : skipping ≤ buffer.length) :
    glance? limit ⟨buffer, skipping, none⟩
      = glanceAhead? limit ⟨buffer.drop skipping, 0, none⟩ := by
  by_cases boundary : skipping = 0
  · subst boundary
    rfl
  · simp only [glance?, if_neg boundary, Nat.min_eq_left enough, cut?_of_le enough]
    exact if_neg (by omega)

end Skipping

/-! ## Looks -/

section Looks

variable {limit again : Nat} {r after : Receiver}

theorem takeWithin?_of_found {found : Found} (glance : glance? limit r = some (some found, after)) :
    takeWithin? limit again r = some (found, after) := by
  rw [takeWithin?.eq_def, glance]

theorem takeWithin?_succ (glance : glance? limit r = some (none, after)) :
    takeWithin? limit (again + 1) r = takeWithin? limit again after := by
  rw [takeWithin?.eq_def, glance]

/-- A look at a header looks again only when it has taken the header off, and then what is left to
skip settles it. -/
theorem takeWithin?_ahead {noted : Option Nat} {bs : List UInt8} (minimum : headerSize ≤ limit)
    (glance : glance? limit r = glanceAhead? limit ⟨bs, 0, noted⟩) :
    takeWithin? limit 1 r = some (takeFrom limit noted bs) := by
  have look := takeFrom_look limit noted bs
  generalize takeFrom limit noted bs = result at look ⊢
  cases look with
  | short few => exact takeWithin?_of_found (glance.trans (glanceAhead?_short few))
  | cut fits few => exact takeWithin?_of_found (glance.trans (glanceAhead?_cut fits few))
  | frame fits whole => exact takeWithin?_of_found (glance.trans (glanceAhead?_frame fits whole))
  -- with nothing to skip, the second look would be at a header again
  | bare large empty further => exact absurd empty (nonempty_of_large minimum large)
  | skipped large few =>
    rw [takeWithin?_succ (glance.trans (glanceAhead?_large large))]
    exact takeWithin?_of_found (glance?_skipped few)
  | tooLarge large nonempty whole =>
    rw [takeWithin?_succ (glance.trans (glanceAhead?_large large))]
    exact takeWithin?_of_found (glance?_tooLarge (Nat.pos_of_ne_zero nonempty) whole)

/-- Under a limit with room for a header, a look never cuts off more than there is, and looks
again once at most. -/
theorem takeWithin?_one (minimum : headerSize ≤ limit) (r : Receiver) :
    takeWithin? limit 1 r = some (take limit r) := by
  obtain ⟨buffer, skipping, noted⟩ := r
  by_cases few : buffer.length < skipping
  · rw [take_skipped few]
    exact takeWithin?_of_found (glance?_skipped few)
  have enough : skipping ≤ buffer.length := Nat.not_lt.mp few
  cases noted with
  | none =>
    rw [take_leftBehind enough]
    exact takeWithin?_ahead minimum (glance?_leftBehind enough)
  | some size =>
    by_cases boundary : skipping = 0
    · subst boundary
      exact takeWithin?_ahead minimum rfl
    · have positive : 0 < skipping := Nat.pos_of_ne_zero boundary
      rw [take_tooLarge positive enough]
      exact takeWithin?_of_found (glance?_tooLarge positive enough)

/-- Without room for a header, two bare frames are two headers to look past. -/
example : takeWithin? 1 1 ⟨[0x15, 0, 0x15, 0], 0, none⟩ = none := rfl

end Looks

end Receiver

end ThingLink
