import Mathlib.Data.List.Forall2
import Mathlib.Data.Nat.Digits.Defs
import ThingLink.Text.Integer

/-!
# Numerals

What an unsigned number looks like as a text: one optional `+`, then one digit or more, the
highest first.  `readUnsigned` reads the numerals of the numbers below its bound, with any number
of zeros in front, and nothing else; a numeral of any other number is too large for it.
-/

namespace ThingLink.Text

/-- What each character is worth as a digit of a base. -/
def DigitValues (base : Nat) (cs : List Char) (values : List Nat) : Prop :=
  cs.map (digitValue? base) = values.map some

/-- Some characters are the digits of a number, the highest first. -/
def Digits (base : Nat) (cs : List Char) (n : Nat) : Prop :=
  cs ≠ [] ∧ ∃ values, DigitValues base cs values ∧ Nat.ofDigits base values.reverse = n

/-- The texts of a number in a base. -/
inductive Numeral (base : Nat) : List Char → Nat → Prop where
  | bare {cs : List Char} {n : Nat} (digits : Digits base cs n) : Numeral base cs n
  | plus {cs : List Char} {n : Nat} (digits : Digits base cs n) : Numeral base ('+' :: cs) n

/-! ## Digits from the left -/

/-- A number with more digits behind it. -/
def appendDigits (base value : Nat) (values : List Nat) : Nat :=
  values.foldl (fun n d => n * base + d) value

theorem ofDigits_reverse (base : Nat) (values : List Nat) :
    Nat.ofDigits base values.reverse = appendDigits base 0 values := by
  rw [Nat.ofDigits_eq_foldr, List.foldr_reverse, appendDigits]
  congr 1
  funext n d
  rw [Nat.cast_id, Nat.add_comm, Nat.mul_comm]

theorem le_appendDigits {base : Nat} (positive : 0 < base) (value : Nat) (values : List Nat) :
    value ≤ appendDigits base value values := by
  induction values generalizing value with
  | nil => exact Nat.le_refl value
  | cons d values inductionHypothesis =>
    have grown : value ≤ value * base + d :=
      Nat.le_add_right_of_le (Nat.le_mul_of_pos_right value positive)
    exact Nat.le_trans grown (inductionHypothesis _)

theorem digitValues_cons_iff {base : Nat} {c : Char} {cs : List Char} {values : List Nat} :
    DigitValues base (c :: cs) values
      ↔ ∃ d rest, values = d :: rest ∧ digitValue? base c = some d ∧ DigitValues base cs rest := by
  cases values with
  | nil => simp [DigitValues]
  | cons d rest =>
    simp only [DigitValues, List.map_cons, List.cons.injEq]
    constructor
    · rintro ⟨digit, digits⟩
      exact ⟨d, rest, ⟨rfl, rfl⟩, digit, digits⟩
    · rintro ⟨d', rest', ⟨rfl, rfl⟩, digit, digits⟩
      exact ⟨digit, digits⟩

/-! ## Reading -/

section Reading

variable {base bound value n : Nat} {c : Char} {cs : List Char}

/-- The bound is kept at every digit since a number only grows with its digits. -/
theorem readDigits_eq_ok_iff (fits : value < bound) :
    readDigits base bound value cs = .ok n
      ↔ ∃ values, DigitValues base cs values ∧ appendDigits base value values = n ∧ n < bound := by
  induction cs generalizing value with
  | nil =>
    simp only [readDigits, DigitValues, List.map_nil]
    constructor
    · rintro ⟨⟩
      exact ⟨[], rfl, rfl, fits⟩
    · rintro ⟨values, empty, worth, -⟩
      rw [List.map_eq_nil_iff.mp empty.symm] at worth
      exact congrArg _ worth
  | cons c cs inductionHypothesis =>
    cases digit : digitValue? base c with
    | none => simp [readDigits, digitValues_cons_iff, digit]
    | some d =>
      have positive : 0 < base := Nat.zero_lt_of_lt (digitValue?_lt digit)
      simp only [readDigits, digit]
      constructor
      · intro read
        split at read
        · next below =>
          obtain ⟨rest, digits, worth, inside⟩ := (inductionHypothesis below).mp read
          exact ⟨d :: rest, digitValues_cons_iff.mpr ⟨d, rest, rfl, digit, digits⟩, worth, inside⟩
        · cases read
      · rintro ⟨values, digits, worth, inside⟩
        obtain ⟨d', rest, rfl, found, behind⟩ := digitValues_cons_iff.mp digits
        cases digit.symm.trans found
        have grown : value * base + d ≤ n := worth ▸ le_appendDigits positive _ rest
        have below : value * base + d < bound := Nat.lt_of_le_of_lt grown inside
        rw [if_pos below]
        exact (inductionHypothesis below).mpr ⟨rest, behind, worth, inside⟩

theorem readDigits_zero_eq_ok_iff (nonempty : cs ≠ []) (positive : 0 < bound) :
    readDigits base bound 0 cs = .ok n ↔ Digits base cs n ∧ n < bound := by
  rw [readDigits_eq_ok_iff positive]
  constructor
  · rintro ⟨values, digits, worth, inside⟩
    exact ⟨⟨nonempty, values, digits, (ofDigits_reverse base values).trans worth⟩, inside⟩
  · rintro ⟨⟨-, values, digits, worth⟩, inside⟩
    exact ⟨values, digits, (ofDigits_reverse base values).symm.trans worth, inside⟩

theorem not_digits_plus : ¬Digits base ('+' :: cs) n := by
  rintro ⟨-, values, digits, -⟩
  obtain ⟨d, rest, -, digit, -⟩ := digitValues_cons_iff.mp digits
  exact nomatch digit

theorem numeral_plus_iff : Numeral base ('+' :: cs) n ↔ Digits base cs n := by
  constructor
  · rintro (digits | digits)
    · exact absurd digits not_digits_plus
    · exact digits
  · exact .plus

theorem numeral_iff_of_unsigned (unsigned : ∀ rest, cs ≠ '+' :: rest) :
    Numeral base cs n ↔ Digits base cs n := by
  constructor
  · rintro (digits | digits)
    · exact digits
    · exact absurd rfl (unsigned _)
  · exact .bare

/-- The texts that are read are the numerals of the numbers below the bound. -/
theorem readUnsigned_eq_ok_iff (positive : 0 < bound) :
    readUnsigned base bound cs = .ok n ↔ Numeral base cs n ∧ n < bound := by
  unfold readUnsigned
  split
  · refine ⟨nofun, ?_⟩
    rintro ⟨digits | digits, -⟩
    exact absurd rfl digits.1
  · refine ⟨nofun, ?_⟩
    rintro ⟨numeral, -⟩
    exact absurd rfl (numeral_plus_iff.mp numeral).1
  · next rest nonempty =>
    rw [numeral_plus_iff, readDigits_zero_eq_ok_iff nonempty positive]
  · next nonempty _ unsigned =>
    rw [numeral_iff_of_unsigned unsigned, readDigits_zero_eq_ok_iff nonempty positive]

/-- The digit that takes a number to its bound is met however many follow it. -/
theorem readDigits_eq_tooLarge {values : List Nat} (fits : value < bound)
    (digits : DigitValues base cs values) (large : bound ≤ appendDigits base value values) :
    readDigits base bound value cs = .error .tooLarge := by
  induction cs generalizing value values with
  | nil =>
    rw [List.map_eq_nil_iff.mp digits.symm] at large
    exact absurd fits (Nat.not_lt.mpr large)
  | cons c cs inductionHypothesis =>
    obtain ⟨d, rest, rfl, digit, behind⟩ := digitValues_cons_iff.mp digits
    simp only [readDigits, digit]
    split
    · next below => exact inductionHypothesis below behind large
    · rfl

theorem readUnsigned_eq_tooLarge (positive : 0 < bound) (numeral : Numeral base cs n)
    (large : bound ≤ n) : readUnsigned base bound cs = .error .tooLarge := by
  have refused {digits : List Char} (spelled : Digits base digits n) :
      readDigits base bound 0 digits = .error .tooLarge := by
    obtain ⟨-, values, digits, rfl⟩ := spelled
    rw [ofDigits_reverse] at large
    exact readDigits_eq_tooLarge positive digits large
  unfold readUnsigned
  split
  · cases numeral with
    | bare digits => exact absurd rfl digits.1
  · exact absurd rfl (numeral_plus_iff.mp numeral).1
  · exact refused (numeral_plus_iff.mp numeral)
  · next unsigned => exact refused ((numeral_iff_of_unsigned unsigned).mp numeral)

end Reading

/-! ## By the characters -/

/-- The characters that a digit is written with; letters may be capital. -/
def Glyph (base d : Nat) (c : Char) : Prop :=
  d < base ∧ (c = Nat.digitChar d ∨ c = (Nat.digitChar d).toUpper)

section Characters

variable {base d n : Nat} {c : Char} {cs : List Char} {values : List Nat}

theorem le_of_hexValue? (value : hexValue? c = some d) : c ≤ 'f' := by
  unfold hexValue? at value
  split at value
  · next digit => exact Std.le_trans digit.2 (by decide)
  · split at value
    · next letter => exact letter.2
    · split at value
      · next letter => exact Std.le_trans letter.2 (by decide)
      · cases value

theorem hexValue?_eq_some_iff : hexValue? c = some d ↔ Glyph 16 d c := by
  constructor
  · intro value
    have table : ∀ n < 'g'.toNat, ∀ d ∈ hexValue? (Char.ofNat n), d < 16
        ∧ (Char.ofNat n = Nat.digitChar d ∨ Char.ofNat n = (Nat.digitChar d).toUpper) := by
      decide
    have glyph := table c.toNat (Nat.lt_succ_of_le (le_of_hexValue? value)) d
    rw [Char.ofNat_toNat] at glyph
    exact glyph value
  · have table : ∀ d < 16, hexValue? (Nat.digitChar d).toUpper = some d := by decide
    rintro ⟨small, rfl | rfl⟩
    · exact hexValue?_digitChar small
    · exact table d small

theorem digitValue?_eq_some_iff (small : base ≤ 16) :
    digitValue? base c = some d ↔ Glyph base d c := by
  rw [digitValue?, Option.filter_eq_some_iff, hexValue?_eq_some_iff, decide_eq_true_eq]
  constructor
  · rintro ⟨⟨-, written⟩, below⟩
    exact ⟨below, written⟩
  · rintro ⟨below, written⟩
    exact ⟨⟨Nat.lt_of_lt_of_le below small, written⟩, below⟩

theorem digitValues_iff_glyphs (small : base ≤ 16) :
    DigitValues base cs values ↔ List.Forall₂ (Glyph base) values cs := by
  induction cs generalizing values with
  | nil =>
    rw [DigitValues, List.map_nil, eq_comm, List.map_eq_nil_iff, List.forall₂_nil_right_iff]
  | cons c cs inductionHypothesis =>
    rw [digitValues_cons_iff, List.forall₂_cons_right_iff]
    simp only [digitValue?_eq_some_iff small, inductionHypothesis]
    constructor
    · rintro ⟨d, rest, rfl, glyph, glyphs⟩
      exact ⟨d, rest, glyph, glyphs, rfl⟩
    · rintro ⟨d, rest, glyph, glyphs, rfl⟩
      exact ⟨d, rest, rfl, glyph, glyphs⟩

theorem digits_iff_glyphs (small : base ≤ 16) :
    Digits base cs n
      ↔ cs ≠ [] ∧ ∃ values, List.Forall₂ (Glyph base) values cs
          ∧ Nat.ofDigits base values.reverse = n := by
  simp only [Digits, digitValues_iff_glyphs small]

/-- Zeros in front of the digits do not matter. -/
theorem Digits.zeros (digits : Digits base cs n) (positive : 0 < base) (zeros : Nat) :
    Digits base (List.replicate zeros '0' ++ cs) n := by
  obtain ⟨nonempty, values, digits, rfl⟩ := digits
  have zero : digitValue? base '0' = some 0 := by
    simpa [digitValue?, hexValue?] using positive
  refine ⟨List.append_ne_nil_of_right_ne_nil _ nonempty, List.replicate zeros 0 ++ values, ?_, ?_⟩
  · rw [DigitValues, List.map_append, List.map_append, List.map_replicate, List.map_replicate, zero,
      digits]
  · rw [List.reverse_append, List.reverse_replicate, Nat.ofDigits_append_replicate_zero]

end Characters

end ThingLink.Text
