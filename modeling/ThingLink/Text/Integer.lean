/-!
# Integers as texts

Unsigned numbers are read digit by digit against a bound, with one optional
`+` in front; the first fault from the left decides the error.  `decimal` and
`paddedHex` write numbers, and what they write reads back (`readUnsigned_decimal`,
`readUnsigned_paddedHex`).
-/

namespace ThingLink.Text

inductive IntegerError where
  | empty
  | invalidDigit
  | tooLarge
  | tooSmall
  deriving DecidableEq, Repr

def IntegerError.message : IntegerError → String
  | empty => "cannot parse integer from empty string"
  | invalidDigit => "invalid digit found in string"
  | tooLarge => "number too large to fit in target type"
  | tooSmall => "number too small to fit in target type"

/-! ## Digits -/

def hexValue? (c : Char) : Option Nat :=
  if '0' ≤ c ∧ c ≤ '9' then some (c.toNat - '0'.toNat)
  else if 'a' ≤ c ∧ c ≤ 'f' then some (c.toNat - 'a'.toNat + 10)
  else if 'A' ≤ c ∧ c ≤ 'F' then some (c.toNat - 'A'.toNat + 10)
  else none

def digitValue? (base : Nat) (c : Char) : Option Nat :=
  (hexValue? c).filter (· < base)

theorem digitValue?_lt {base d : Nat} {c : Char} (h : digitValue? base c = some d) : d < base := by
  simpa using (Option.filter_eq_some_iff.mp h).2

/-- How many numbers have at most `width` digits in a base. -/
def capacity (base : Nat) : (width : Nat) → Nat
  | 0 => 1
  | width + 1 => base * capacity base width

/-- The digit characters of a number in exactly `width` places; higher digits are left out. -/
def paddedDigits (base : Nat) : Nat → Nat → List Char
  | 0, _ => []
  | width + 1, n => paddedDigits base width (n / base) ++ [Nat.digitChar (n % base)]

def decimal (n : Nat) : String :=
  String.ofList (Nat.toDigits 10 n)

def signedDecimal (i : Int) : String :=
  if i < 0 then "-" ++ decimal i.natAbs else decimal i.natAbs

/-- A number in hexadecimal with exactly `width` lower-case digits. -/
def paddedHex (width n : Nat) : String :=
  String.ofList (paddedDigits 16 width n)

/-! ## Reading -/

/-- Reads the digits of a number below `bound` after those already worth `value`. -/
def readDigits (base bound : Nat) (value : Nat) : List Char → Except IntegerError Nat
  | [] => .ok value
  | c :: cs =>
      match digitValue? base c with
      | none => .error .invalidDigit
      | some d =>
          if value * base + d < bound then readDigits base bound (value * base + d) cs
          else .error .tooLarge

/-- Reads an unsigned number below `bound`: one optional `+`, then digits. -/
def readUnsigned (base bound : Nat) : List Char → Except IntegerError Nat
  | [] => .error .empty
  | ['+'] => .error .invalidDigit
  | '+' :: cs => readDigits base bound 0 cs
  | cs => readDigits base bound 0 cs

/-- Reads a decimal number in `-bound … bound - 1` with an optional sign. -/
def readSigned (bound : Nat) : List Char → Except IntegerError Int
  | ['-'] => .error .invalidDigit
  | '-' :: cs =>
      match readDigits 10 (bound + 1) 0 cs with
      | .ok n => .ok (-(n : Int))
      | .error .tooLarge => .error .tooSmall
      | .error e => .error e
  | cs => (readUnsigned 10 bound cs).map Int.ofNat

def readBool? : String → Option Bool
  | "true" => some true
  | "false" => some false
  | _ => none

/-! ## What is written reads back -/

theorem hexValue?_digitChar {d : Nat} (h : d < 16) : hexValue? (Nat.digitChar d) = some d := by
  have table : ∀ d < 16, hexValue? (Nat.digitChar d) = some d := by decide
  exact table d h

theorem digitValue?_digitChar {base d : Nat} (small : base ≤ 16) (h : d < base) :
    digitValue? base (Nat.digitChar d) = some d := by
  simp [digitValue?, hexValue?_digitChar (Nat.lt_of_lt_of_le h small), h]

theorem digitChar_ne_plus {d : Nat} (h : d < 16) : Nat.digitChar d ≠ '+' := by
  have table : ∀ d < 16, Nat.digitChar d ≠ '+' := by decide
  exact table d h

theorem readDigits_append_digitChar {base bound value n d : Nat} {cs : List Char}
    (small : base ≤ 16) (digit : d < base) (read : readDigits base bound value cs = .ok n)
    (fits : n * base + d < bound) :
    readDigits base bound value (cs ++ [Nat.digitChar d]) = .ok (n * base + d) := by
  induction cs generalizing value with
  | nil =>
      cases read
      simp [readDigits, digitValue?_digitChar small digit, fits]
  | cons c cs ih =>
      simp only [readDigits, List.cons_append] at read ⊢
      cases found : digitValue? base c with
      | none => simp [found] at read
      | some v =>
          simp only [found] at read ⊢
          split at read
          · next below =>
            rw [if_pos below]
            exact ih read
          · exact nomatch read

theorem readDigits_paddedDigits {base bound width n : Nat} (small : base ≤ 16) (positive : 0 < base)
    (width_fits : n < capacity base width) (fits : n < bound) :
    readDigits base bound 0 (paddedDigits base width n) = .ok n := by
  induction width generalizing n with
  | zero =>
      have : n = 0 := by simpa [capacity] using width_fits
      subst this
      rfl
  | succ width ih =>
      have split : n / base * base + n % base = n := Nat.div_add_mod' n base
      have below : n / base ≤ n := Nat.div_le_self n base
      have head := ih (n := n / base)
        (Nat.div_lt_of_lt_mul width_fits) (by omega)
      have whole := readDigits_append_digitChar small (Nat.mod_lt n positive) head (by omega)
      rwa [split] at whole

theorem paddedDigits_length (base width n : Nat) : (paddedDigits base width n).length = width := by
  induction width generalizing n with
  | zero => rfl
  | succ width ih => simp [paddedDigits, ih]

theorem mem_paddedDigits {base width n : Nat} (positive : 0 < base) {c : Char}
    (h : c ∈ paddedDigits base width n) : ∃ d < base, c = Nat.digitChar d := by
  induction width generalizing n with
  | zero => simp [paddedDigits] at h
  | succ width ih =>
      rcases List.mem_append.mp h with h | h
      · exact ih h
      · exact ⟨n % base, Nat.mod_lt n positive, List.mem_singleton.mp h⟩

theorem paddedDigits_head_ne_plus {base width n : Nat} (small : base ≤ 16) (positive : 0 < base)
    {c : Char} (h : c ∈ paddedDigits base width n) : c ≠ '+' := by
  obtain ⟨d, below, rfl⟩ := mem_paddedDigits positive h
  exact digitChar_ne_plus (Nat.lt_of_lt_of_le below small)

theorem readUnsigned_eq_readDigits {base bound : Nat} {cs : List Char} (nonempty : cs ≠ [])
    (unsigned : ∀ c ∈ cs, c ≠ '+') : readUnsigned base bound cs = readDigits base bound 0 cs := by
  unfold readUnsigned
  split
  · contradiction
  · exact absurd rfl (unsigned '+' (by simp))
  · exact absurd rfl (unsigned '+' (by simp))
  · rfl

theorem readUnsigned_paddedHex {bound width n : Nat} (wide : 0 < width)
    (width_fits : n < capacity 16 width) (fits : n < bound) : readUnsigned 16 bound (paddedHex width n).toList = .ok n := by
  simp only [paddedHex, String.toList_ofList]
  rw [readUnsigned_eq_readDigits]
  · exact readDigits_paddedDigits (by decide) (by decide) width_fits fits
  · intro none
    have := paddedDigits_length 16 width n
    rw [none] at this
    simp at this
    omega
  · intro c
    exact paddedDigits_head_ne_plus (by decide) (by decide)

theorem readDigits_toDigits {bound n : Nat} (fits : n < bound) :
    readDigits 10 bound 0 (Nat.toDigits 10 n) = .ok n := by
  induction n using Nat.strongRecOn with
  | ind n ih =>
      by_cases small : n < 10
      · rw [Nat.toDigits_of_lt_base small]
        have start : readDigits 10 bound 0 [] = .ok 0 := rfl
        have := readDigits_append_digitChar (by decide) small start (by omega)
        simpa using this
      · rw [Nat.toDigits_of_base_le (by decide) (by omega)]
        have head := ih (n / 10) (by omega) (by omega)
        have whole := readDigits_append_digitChar (by decide) (Nat.mod_lt n (by decide)) head
          (by omega)
        have split : n / 10 * 10 + n % 10 = n := Nat.div_add_mod' n 10
        rwa [split] at whole

theorem readUnsigned_decimal {bound n : Nat} (fits : n < bound) :
    readUnsigned 10 bound (decimal n).toList = .ok n := by
  simp only [decimal, String.toList_ofList]
  rw [readUnsigned_eq_readDigits]
  · exact readDigits_toDigits fits
  · exact Nat.toDigits_ne_nil
  · intro c h rfl
    have := Nat.isDigit_of_mem_toDigits (by decide) (by decide) h
    exact absurd this (by decide)

end ThingLink.Text
