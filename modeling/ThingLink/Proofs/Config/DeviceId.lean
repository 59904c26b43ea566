import Mathlib.Data.List.DropRight
import ThingLink.Config.DeviceId
import ThingLink.Proofs.Text.Numeral

/-!
# The texts of device ids

A device id is read from a numeral with blanks around it, decimal or hexadecimal behind a mark.
The numerals of the numbers below `2 ^ 64` are read, as what they say; the numerals of all other
numbers are too large, and whatever is no numeral is refused.
-/

namespace ThingLink

open Text (isBlank trimBlank Digits Numeral Glyph digitValue? readUnsigned readUnsigned_eq_ok_iff
  readUnsigned_eq_tooLarge digits_iff_glyphs digitValue?_eq_some_iff)

/-! ## Blanks around a text -/

/-- That one text is another one without the blanks around it. -/
structure Trimmed (cs w : List Char) : Prop where
  around : ∃ front back, cs = front ++ (w ++ back) ∧ (∀ c ∈ front, isBlank c = true)
    ∧ ∀ c ∈ back, isBlank c = true
  first : ∀ c ∈ w.head?, isBlank c = false
  last : ∀ c ∈ w.getLast?, isBlank c = false

theorem dropWhile_blanks {front w : List Char} (blank : ∀ c ∈ front, isBlank c = true)
    (first : ∀ c ∈ w.head?, isBlank c = false) : (front ++ w).dropWhile isBlank = w := by
  rw [List.dropWhile_append_of_pos blank]
  cases w with
  | nil => rfl
  | cons c w => exact List.dropWhile_cons_of_neg (by simp [first c rfl])

theorem trimBlank_trimmed (cs : List Char) : Trimmed cs (trimBlank cs) where
  around := by
    refine ⟨cs.takeWhile isBlank, (cs.dropWhile isBlank).rtakeWhile isBlank, ?_,
      fun c member => List.mem_takeWhile_imp member, fun c member => List.mem_rtakeWhile_imp member⟩
    have split : trimBlank cs ++ (cs.dropWhile isBlank).rtakeWhile isBlank = cs.dropWhile isBlank :=
      List.rdropWhile_append_rtakeWhile ..
    rw [split, List.takeWhile_append_dropWhile]
  first c member := by
    -- the last blanks are cut off a text that starts with none
    obtain ⟨rest, split⟩ : trimBlank cs <+: cs.dropWhile isBlank := List.rdropWhile_prefix ..
    have start := List.head?_dropWhile_not isBlank cs
    rwa [← split, List.head?_append, Option.mem_def.mp member] at start
  last c member := by
    obtain ⟨nonempty, rfl⟩ := List.mem_getLast?_eq_getLast member
    exact Bool.eq_false_iff.mpr (List.rdropWhile_last_not isBlank _ nonempty)

theorem Trimmed.eq_trimBlank {cs w : List Char} (trimmed : Trimmed cs w) : w = trimBlank cs := by
  obtain ⟨⟨front, back, rfl, before, behind⟩, first, last⟩ := trimmed
  have tail : (w ++ back).rdropWhile isBlank = w := by
    rw [List.rdropWhile, List.reverse_append, dropWhile_blanks, List.reverse_reverse]
    · simpa using behind
    · simpa using last
  cases w with
  | nil =>
    have blank : ∀ c ∈ front ++ ([] ++ back), isBlank c = true := by
      simpa [or_imp, forall_and] using ⟨before, behind⟩
    rw [trimBlank, List.dropWhile_eq_nil_iff.mpr blank]
    rfl
  | cons c w =>
    have start : (front ++ (c :: w ++ back)).dropWhile isBlank = c :: w ++ back :=
      dropWhile_blanks before first
    rw [trimBlank, start]
    exact tail.symm

theorem trimmed_iff {cs w : List Char} : Trimmed cs w ↔ w = trimBlank cs := by
  constructor
  · exact Trimmed.eq_trimBlank
  · rintro rfl
    exact trimBlank_trimmed cs

/-! ## The grammar -/

/-- That a text begins with the mark of hexadecimal numbers. -/
def HexMarked (cs : List Char) : Prop :=
  ∃ mark rest, (mark = 'x' ∨ mark = 'X') ∧ cs = '0' :: mark :: rest

/-- The texts of a number as a device id. -/
inductive DeviceNumeral : List Char → Nat → Prop where
  | decimal {cs : List Char} {n : Nat} (unmarked : ¬HexMarked cs) (numeral : Numeral 10 cs n) :
      DeviceNumeral cs n
  | hexadecimal {mark : Char} {cs : List Char} {n : Nat} (marked : mark = 'x' ∨ mark = 'X')
      (numeral : Numeral 16 cs n) : DeviceNumeral ('0' :: mark :: cs) n

section Numbers

variable {cs : List Char} {n : Nat}

theorem readDeviceNumber_of_unmarked (unmarked : ¬HexMarked cs) :
    readDeviceNumber cs = readUnsigned 10 deviceIdBound cs := by
  unfold readDeviceNumber
  split
  · exact absurd ⟨_, _, .inl rfl, rfl⟩ unmarked
  · exact absurd ⟨_, _, .inr rfl, rfl⟩ unmarked
  · rfl

theorem readDeviceNumber_of_marked {mark : Char} (marked : mark = 'x' ∨ mark = 'X') :
    readDeviceNumber ('0' :: mark :: cs) = readUnsigned 16 deviceIdBound cs := by
  rcases marked with rfl | rfl <;> rfl

theorem deviceNumeral_iff_of_unmarked (unmarked : ¬HexMarked cs) :
    DeviceNumeral cs n ↔ Numeral 10 cs n := by
  constructor
  · intro numeral
    cases numeral with
    | decimal _ numeral => exact numeral
    | hexadecimal marked _ => exact absurd ⟨_, _, marked, rfl⟩ unmarked
  · exact .decimal unmarked

theorem deviceNumeral_iff_of_marked {mark : Char} (marked : mark = 'x' ∨ mark = 'X') :
    DeviceNumeral ('0' :: mark :: cs) n ↔ Numeral 16 cs n := by
  constructor
  · intro numeral
    cases numeral with
    | decimal unmarked _ => exact absurd ⟨_, _, marked, rfl⟩ unmarked
    | hexadecimal _ numeral => exact numeral
  · exact .hexadecimal marked

theorem readDeviceNumber_eq_ok_iff :
    readDeviceNumber cs = .ok n ↔ DeviceNumeral cs n ∧ n < deviceIdBound := by
  have positive : 0 < deviceIdBound := by decide
  by_cases marked : HexMarked cs
  · obtain ⟨mark, rest, marked, rfl⟩ := marked
    rw [readDeviceNumber_of_marked marked, deviceNumeral_iff_of_marked marked,
      readUnsigned_eq_ok_iff positive]
  · rw [readDeviceNumber_of_unmarked marked, deviceNumeral_iff_of_unmarked marked,
      readUnsigned_eq_ok_iff positive]

theorem readDeviceNumber_eq_tooLarge (numeral : DeviceNumeral cs n) (large : deviceIdBound ≤ n) :
    readDeviceNumber cs = .error .tooLarge := by
  have positive : 0 < deviceIdBound := by decide
  cases numeral with
  | decimal unmarked numeral =>
    rw [readDeviceNumber_of_unmarked unmarked, readUnsigned_eq_tooLarge positive numeral large]
  | hexadecimal marked numeral =>
    rw [readDeviceNumber_of_marked marked, readUnsigned_eq_tooLarge positive numeral large]

end Numbers

/-! ## Reading -/

section Reading

variable {text : String} {v : UInt64}

theorem readDeviceId_of_ok {n : Nat} (read : readDeviceNumber (trimBlank text.toList) = .ok n) :
    readDeviceId text = .ok (UInt64.ofNat n) := by
  simp only [readDeviceId, read]

theorem readDeviceId_of_error {cause : Text.IntegerError}
    (refused : readDeviceNumber (trimBlank text.toList) = .error cause) :
    readDeviceId text = .error ⟨String.ofList (trimBlank text.toList), cause⟩ := by
  simp only [readDeviceId, refused]

/-- The number that is read is the one that the text says, and it is not wrapped around. -/
theorem readDeviceId_eq_ok_iff :
    readDeviceId text = .ok v ↔ DeviceNumeral (trimBlank text.toList) v.toNat := by
  constructor
  · intro read
    cases number : readDeviceNumber (trimBlank text.toList) with
    | error cause => exact nomatch (readDeviceId_of_error number).symm.trans read
    | ok n =>
      obtain ⟨numeral, below⟩ := readDeviceNumber_eq_ok_iff.mp number
      cases (readDeviceId_of_ok number).symm.trans read
      rwa [UInt64.toNat_ofNat_of_lt' below]
  · intro numeral
    have number := readDeviceNumber_eq_ok_iff.mpr ⟨numeral, v.toNat_lt⟩
    rw [readDeviceId_of_ok number, UInt64.ofNat_toNat]

theorem readDeviceId_eq_error_iff :
    (∃ cause, readDeviceId text = .error ⟨String.ofList (trimBlank text.toList), cause⟩)
      ↔ ∀ n < deviceIdBound, ¬DeviceNumeral (trimBlank text.toList) n := by
  constructor
  · rintro ⟨cause, refused⟩ n below numeral
    have number := readDeviceNumber_eq_ok_iff.mpr ⟨numeral, below⟩
    exact nomatch refused.symm.trans (readDeviceId_of_ok number)
  · intro none
    cases number : readDeviceNumber (trimBlank text.toList) with
    | ok n =>
      obtain ⟨numeral, below⟩ := readDeviceNumber_eq_ok_iff.mp number
      exact absurd numeral (none n below)
    | error cause => exact ⟨cause, readDeviceId_of_error number⟩

theorem readDeviceId_eq_tooLarge {n : Nat} (numeral : DeviceNumeral (trimBlank text.toList) n)
    (large : deviceIdBound ≤ n) :
    readDeviceId text = .error ⟨String.ofList (trimBlank text.toList), .tooLarge⟩ :=
  readDeviceId_of_error (readDeviceNumber_eq_tooLarge numeral large)

theorem toNat_eq_of_readDeviceId {n : Nat} (read : readDeviceId text = .ok v)
    (numeral : DeviceNumeral (trimBlank text.toList) n) : v.toNat = n := by
  by_cases below : n < deviceIdBound
  · have number := readDeviceNumber_eq_ok_iff.mpr ⟨numeral, below⟩
    cases (readDeviceId_of_ok number).symm.trans read
    exact UInt64.toNat_ofNat_of_lt' below
  · exact nomatch (readDeviceId_eq_tooLarge numeral (Nat.not_lt.mp below)).symm.trans read

end Reading

/-! ## Texts of no number -/

/-- A mark or none and a sign or none, with no digit behind them. -/
inductive Digitless : List Char → Prop where
  | mk {mark sign : List Char} (marks : mark = [] ∨ mark = ['0', 'x'] ∨ mark = ['0', 'X'])
      (signs : sign = [] ∨ sign = ['+']) : Digitless (mark ++ sign)

/-- The characters that stand in no numeral, wherever they stand. -/
def Alien (c : Char) : Prop :=
  c = '-' ∨ isBlank c = true

section Faults

variable {base n : Nat} {c : Char} {cs : List Char}

theorem not_alien_of_digitValue? {d : Nat} (small : base ≤ 16)
    (digit : digitValue? base c = some d) : ¬Alien c := by
  have table : ∀ d < 16, Nat.digitChar d ≠ '-' ∧ isBlank (Nat.digitChar d) = false
      ∧ (Nat.digitChar d).toUpper ≠ '-' ∧ isBlank (Nat.digitChar d).toUpper = false := by
    decide
  obtain ⟨below, written⟩ := (digitValue?_eq_some_iff small).mp digit
  obtain ⟨lower, lowerInked, upper, upperInked⟩ := table d (Nat.lt_of_lt_of_le below small)
  rintro (rfl | blank)
  · exact written.elim (Ne.symm lower) (Ne.symm upper)
  · rcases written with rfl | rfl
    · exact absurd blank (Bool.eq_false_iff.mp lowerInked)
    · exact absurd blank (Bool.eq_false_iff.mp upperInked)

theorem not_alien_of_digits (small : base ≤ 16) (digits : Digits base cs n) (member : c ∈ cs) :
    ¬Alien c := by
  obtain ⟨-, values, digits, -⟩ := digits
  have mapped : digitValue? base c ∈ values.map some := digits ▸ List.mem_map_of_mem member
  obtain ⟨d, -, digit⟩ := List.mem_map.mp mapped
  exact not_alien_of_digitValue? small digit.symm

theorem not_alien_of_numeral (small : base ≤ 16) (numeral : Numeral base cs n)
    (member : c ∈ cs) : ¬Alien c := by
  cases numeral with
  | bare digits => exact not_alien_of_digits small digits member
  | plus digits =>
    rcases List.mem_cons.mp member with rfl | member
    · simp only [Alien, not_or]
      decide
    · exact not_alien_of_digits small digits member

theorem DeviceNumeral.not_alien (numeral : DeviceNumeral cs n) (member : c ∈ cs) : ¬Alien c := by
  cases numeral with
  | decimal _ numeral => exact not_alien_of_numeral (by decide) numeral member
  | hexadecimal marked numeral =>
    rcases List.mem_cons.mp member with rfl | member
    · simp only [Alien, not_or]
      decide
    · rcases List.mem_cons.mp member with rfl | member
      · simp only [Alien, not_or]
        rcases marked with rfl | rfl <;> decide
      · exact not_alien_of_numeral (by decide) numeral member

theorem readDeviceNumber_of_digitless (digitless : Digitless cs) :
    ∃ cause, readDeviceNumber cs = .error cause := by
  obtain ⟨marks, signs⟩ := digitless
  rcases marks with rfl | rfl | rfl <;> rcases signs with rfl | rfl <;> exact ⟨_, rfl⟩

end Faults

/-- A text is read as the number that it says in digits, if that fits, and is refused otherwise,
however long it is. -/
theorem readDeviceId_reads_numerals (text : String) :
    let w := trimBlank text.toList
    (∀ other, Trimmed text.toList other ↔ other = w)
    ∧ (∀ v, readDeviceId text = .ok v ↔ DeviceNumeral w v.toNat)
    ∧ (∀ v n, readDeviceId text = .ok v → DeviceNumeral w n → v.toNat = n)
    ∧ (∀ n, DeviceNumeral w n → 2 ^ 64 ≤ n →
        readDeviceId text = .error ⟨String.ofList w, .tooLarge⟩)
    ∧ ((∃ cause, readDeviceId text = .error ⟨String.ofList w, cause⟩)
        ↔ ∀ n < 2 ^ 64, ¬DeviceNumeral w n)
    ∧ (Digitless w ∨ (∃ c ∈ w, Alien c) →
        ∃ cause, readDeviceId text = .error ⟨String.ofList w, cause⟩)
    ∧ ∀ base digits n, base = 10 ∨ base = 16 →
        (Digits base digits n
          ↔ digits ≠ [] ∧ ∃ values, List.Forall₂ (Glyph base) values digits
              ∧ Nat.ofDigits base values.reverse = n)
        ∧ (Digits base digits n →
            ∀ zeros, Digits base (List.replicate zeros '0' ++ digits) n) := by
  refine ⟨fun other => trimmed_iff, fun v => readDeviceId_eq_ok_iff,
    fun v n => toNat_eq_of_readDeviceId, fun n => readDeviceId_eq_tooLarge,
    readDeviceId_eq_error_iff, ?faults, ?grammar⟩
  case faults =>
    rintro (digitless | ⟨c, member, alien⟩)
    · obtain ⟨cause, refused⟩ := readDeviceNumber_of_digitless digitless
      exact ⟨cause, readDeviceId_of_error refused⟩
    · exact readDeviceId_eq_error_iff.mpr fun n _ numeral => numeral.not_alien member alien
  case grammar =>
    intro base digits n bases
    have small : base ≤ 16 := by rcases bases with rfl | rfl <;> decide
    have positive : 0 < base := by rcases bases with rfl | rfl <;> decide
    exact ⟨digits_iff_glyphs small, fun spelled => spelled.zeros positive⟩

theorem readDeviceId_reads_numerals_samples :
    readDeviceId "\u2003\u00A00X+00000000000000000000fF\n" = .ok 255
    ∧ readDeviceId "18446744073709551616" = .error ⟨"18446744073709551616", .tooLarge⟩
    ∧ (∃ cause, readDeviceId "1\u00A02" = .error ⟨"1\u00A02", cause⟩)
    ∧ ∃ cause, readDeviceId "\t0x+" = .error ⟨"0x+", cause⟩ := by
  obtain ⟨-, read, -, -, -, -, grammar⟩ :=
    readDeviceId_reads_numerals "\u2003\u00A00X+00000000000000000000fF\n"
  obtain ⟨-, -, -, large, -⟩ := readDeviceId_reads_numerals "18446744073709551616"
  obtain ⟨-, -, -, -, -, blank, -⟩ := readDeviceId_reads_numerals "1\u00A02"
  obtain ⟨-, -, -, -, -, bare, -⟩ := readDeviceId_reads_numerals "\t0x+"
  have digits : Digits 16 ['f', 'F'] 255 := ⟨by simp, [15, 15], rfl, rfl⟩
  refine ⟨(read 255).mpr ?hexadecimal, large (2 ^ 64) ?decimal (Nat.le_refl _), blank ?inner,
    bare ?digitless⟩
  case hexadecimal =>
    exact .hexadecimal (.inr rfl) (.plus ((grammar 16 _ 255 (.inr rfl)).2 digits 20))
  case decimal =>
    have unmarked : ¬HexMarked "18446744073709551616".toList := by
      rintro ⟨mark, rest, -, split⟩
      exact nomatch split
    exact .decimal unmarked
      (.bare ⟨nofun, [1, 8, 4, 4, 6, 7, 4, 4, 0, 7, 3, 7, 0, 9, 5, 5, 1, 6, 1, 6], rfl, rfl⟩)
  case inner => exact .inr ⟨_, List.mem_cons_of_mem _ List.mem_cons_self, .inr rfl⟩
  case digitless => exact .inl (.mk (.inr (.inl rfl)) (.inr rfl))

end ThingLink
