import ThingLink.Text.Integer

/-!
# Floating-point numbers in decimal

The reals that round to a floating-point number `m · 2 ^ q` form an interval
around it.  `Dyadic.shortest` looks for a decimal in that interval on coarser and
coarser grids of powers of ten and takes the first that it meets coming down from
above: no decimal with fewer digits reads back as the same number, and of two with
equally many digits it is the nearer one.  All comparisons are between naturals.
-/

namespace ThingLink.Text

/-- The number `digits · 10 ^ exponent`. -/
structure Decimal where
  digits : Nat
  exponent : Int
  deriving DecidableEq, Repr

/-- The number `significand · 2 ^ exponent`, as one of a floating-point format. -/
structure Dyadic where
  significand : Nat
  exponent : Int
  /-- Whether the next smaller number of the format is only half a unit away. -/
  narrowBelow : Bool
  deriving DecidableEq, Repr

namespace Dyadic

def ofFloat (x : Float) : Dyadic :=
  let bits : Nat := x.toBits.toNat
  let fraction : Nat := bits % (1 <<< 52)
  let scale : Nat := bits >>> 52 % 2048
  if scale = 0 then ⟨fraction, -1074, false⟩
  else ⟨1 <<< 52 + fraction, (scale : Int) - 1075, fraction = 0 && 1 < scale⟩

/-- The number of steps of `10 ^ e` nearest to `x`, if so many steps round to `x`.
An exact tie goes to the even number. -/
def onGrid? (x : Dyadic) (e : Int) : Option Nat :=
  let quarter := Nat.pow 2 (x.exponent - 2).toNat * Nat.pow 10 (-e).toNat
  let step := Nat.pow 2 (2 - x.exponent).toNat * Nat.pow 10 e.toNat
  let value := 4 * x.significand * quarter
  let low := value - (if x.narrowBelow then 1 else 2) * quarter
  let high := value + 2 * quarter
  let inside (n : Nat) : Bool :=
    if x.significand % 2 = 0 then low ≤ n * step && n * step ≤ high
    else low < n * step && n * step < high
  let below := value / step
  let above := below + 1
  if inside below then
    if inside above then
      let down := value - below * step
      let up := above * step - value
      if down < up || (down = up && below % 2 = 0) then some below else some above
    else some below
  else if inside above then some above
  else none

/-- Looks on the grid of `10 ^ e` and on the next `more` finer ones. -/
def search (x : Dyadic) : (more : Nat) → (e : Int) → Decimal
  | 0, e => ⟨(x.onGrid? e).getD 0, e⟩
  | more + 1, e =>
      match x.onGrid? e with
      | some n => ⟨n, e⟩
      | none => search x more (e - 1)

/-- The shortest decimal that rounds to a number other than zero.  The search starts
at a power of ten above the number, and seventeen digits always do. -/
def shortest (x : Dyadic) : Decimal :=
  let bits : Int := Nat.log2 x.significand + 1
  x.search 20 ((bits + x.exponent) * 30103 / 100000 + 1)

end Dyadic

/-! ## Notation -/

structure DecimalStyle where
  /-- Whether a number whose first digit counts `10 ^ p` is written without an exponent. -/
  positional : (p : Int) → Bool

def Decimal.positional (d : Decimal) : String :=
  let digits := decimal d.digits
  if 0 ≤ d.exponent then digits ++ "".pushn '0' d.exponent.toNat ++ ".0"
  else
    let places := (-d.exponent).toNat
    let padded := "".pushn '0' (places + 1 - digits.length) ++ digits
    let whole := padded.length - places
    String.ofList (padded.toList.take whole) ++ "." ++ String.ofList (padded.toList.drop whole)

def Decimal.scientific (d : Decimal) : String :=
  match (decimal d.digits).toList with
  | [] => ""
  | first :: rest =>
      let p := d.exponent + rest.length
      let fraction := if rest.isEmpty then "" else "." ++ String.ofList rest
      String.ofList [first] ++ fraction ++ (if p < 0 then "e-" else "e+") ++ decimal p.natAbs

def Decimal.text (style : DecimalStyle) (d : Decimal) : String :=
  if style.positional (d.exponent + (decimal d.digits).length - 1) then d.positional
  else d.scientific

def floatText (style : DecimalStyle) (x : Float) : String :=
  if x.isNaN then "NaN"
  else
    let sign := if x.toBits.toNat < UInt64.size / 2 then "" else "-"
    let magnitude := Dyadic.ofFloat x
    if x.isInf then sign ++ "inf"
    else if magnitude.significand = 0 then sign ++ "0.0"
    else sign ++ magnitude.shortest.text style

end ThingLink.Text
