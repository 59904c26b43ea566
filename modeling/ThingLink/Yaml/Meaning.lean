import ThingLink.Text.Decimal
import ThingLink.Yaml.Node

/-!
# What plain scalars mean

A scalar without quotation marks may mean nothing, a truth value, an integer or a
floating-point number; every other one is a text.
-/

namespace ThingLink.Yaml

open Text (digitValue? readDigits readUnsigned decimal signedDecimal floatText)

inductive Meaning where
  | null
  | bool (b : Bool)
  | natural (n : Nat)
  | signed (i : Int)
  | float (x : Float)
  | text

def isNull (s : String) : Bool :=
  ["", "~", "null", "Null", "NULL"].contains s

def bool? (s : String) : Option Bool :=
  if ["true", "True", "TRUE"].contains s then some true
  else if ["false", "False", "FALSE"].contains s then some false
  else none

/-! ## Integers -/

def letterBase? (c : Char) : Option Nat :=
  match c with
  | 'x' => some 16
  | 'o' => some 8
  | 'b' => some 2
  | _ => none

def unsigned : List Char → List Char
  | '+' :: rest => rest
  | '-' :: rest => rest
  | cs => cs

/-- Whether a scalar is digits behind a zero; such scalars are texts. -/
def hasLeadingZero (cs : List Char) : Bool :=
  match unsigned cs with
  | '0' :: c :: rest => (c :: rest).all Char.isDigit
  | _ => false

/-- The number below `bound` that digits behind a letter stand for, at least one of them. -/
def based? (bound : Nat) (letter : Char) (digits : List Char) : Option Nat := do
  let base ← letterBase? letter
  if digits.isEmpty then none else (readDigits base bound 0 digits).toOption

def natural? (bound : Nat) (s : String) : Option Nat :=
  let cs := match s.toList with
    | '+' :: rest => rest
    | cs => cs
  let based := match cs with
    | '0' :: letter :: digits => based? bound letter digits
    | _ => none
  match based with
  | some n => some n
  | none =>
      if cs.head?.any (fun c => c = '+' || c = '-') || hasLeadingZero s.toList then none
      else (readUnsigned 10 bound cs).toOption

/-- The number from `-bound` on that a scalar with a minus sign means. -/
def signed? (bound : Nat) (s : String) : Option Int :=
  match s.toList with
  | '-' :: cs =>
      let magnitude : Option Nat := match cs with
        | [] => none
        | '0' :: letter :: digits =>
            match letterBase? letter with
            | some _ => based? (bound + 1) letter digits
            | none =>
                if hasLeadingZero s.toList then none else (readDigits 10 (bound + 1) 0 cs).toOption
        | cs => (readDigits 10 (bound + 1) 0 cs).toOption
      magnitude.map fun n => -(n : Int)
  | _ => none

/-! ## Floating-point numbers -/

/-- The nonnegative floating-point number nearest to `digits · 10 ^ exponent`, if
there is a finite one. -/
def nearest? (digits : Nat) (exponent : Int) : Option Float :=
  if digits = 0 then some 0
  else
    let size : Int := (decimal digits).length + exponent
    if 400 < size then none
    else if size < -400 then some 0
    else
      let x := Float.ofScientific digits (exponent < 0) exponent.natAbs
      if x.isInf then none else some x

def digitsValue (cs : List Char) : Nat :=
  cs.foldl (fun n c => n * 10 + (digitValue? 10 c).getD 0) 0

def exponent? (cs : List Char) : Option Int :=
  let digits := unsigned cs
  if digits.isEmpty || !digits.all Char.isDigit then none
  else if cs.head? = some '-' then some (-(digitsValue digits : Int))
  else some (digitsValue digits)

def magnitude? (cs : List Char) : Option Float :=
  let whole := cs.takeWhile Char.isDigit
  let rest := cs.dropWhile Char.isDigit
  let fraction := match rest with
    | '.' :: rest => rest.takeWhile Char.isDigit
    | _ => []
  let rest := match rest with
    | '.' :: rest => rest.dropWhile Char.isDigit
    | rest => rest
  let exponent := match rest with
    | [] => some 0
    | c :: rest => if c = 'e' || c = 'E' then exponent? rest else none
  if whole.isEmpty && fraction.isEmpty then none
  else
    match exponent with
    | none => none
    | some e => nearest? (digitsValue (whole ++ fraction)) (e - fraction.length)

def float? (s : String) : Option Float :=
  if [".inf", ".Inf", ".INF", "+.inf", "+.Inf", "+.INF"].contains s then some (1 / 0)
  else if ["-.inf", "-.Inf", "-.INF"].contains s then some (-(1 / 0))
  else if [".nan", ".NaN", ".NAN"].contains s then some (0 / 0)
  else
    match s.toList with
    | '+' :: cs => magnitude? cs
    | '-' :: cs => (magnitude? cs).map (- ·)
    | cs => magnitude? cs

/-! ## All of them -/

def wordBound : Nat := UInt64.size

def doubleWordBound : Nat := wordBound * wordBound

/-- The meaning of a plain scalar.  Integers of up to 128 bits are told apart. -/
def meaning (s : String) : Meaning :=
  if isNull s then .null
  else
    match bool? s, natural? doubleWordBound s, signed? (doubleWordBound / 2) s with
    | some b, _, _ => .bool b
    | none, some n, _ => .natural n
    | none, none, some i => .signed i
    | none, none, none =>
        if hasLeadingZero s.toList then .text
        else
          match float? s with
          | some x => .float x
          | none => .text

/-- Floating-point numbers are written without an exponent. -/
def floatStyle : Text.DecimalStyle :=
  ⟨fun _ => true⟩

/-- What an integer too long for a word is called behind its digits. -/
def describeInteger (i : Int) : String :=
  "integer `" ++ signedDecimal i ++ "`"
    ++ (if (wordBound : Int) ≤ i then " as u128" else if i < Int64.minValue.toInt then " as i128" else "")

end ThingLink.Yaml
