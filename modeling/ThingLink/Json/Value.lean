import ThingLink.Json.Tree
import ThingLink.Text.Decimal

/-!
# JSON values

Values, their compact text, and how they are read from a tree.  Numbers without a
point and an exponent are kept exactly as long as 64 bits hold them; every other
number is a floating-point number.
-/

namespace ThingLink

open Text (decimal digitValue? floatText)

/-- A JSON value.  The entries of an object are sorted by their keys. -/
inductive JsonValue where
  | null
  | bool (b : Bool)
  | natural (n : Nat)
  /-- The number `-n`, where `n` is not zero. -/
  | negative (n : Nat)
  | float (x : Float)
  | text (s : String)
  | array (items : List JsonValue)
  | object (entries : List (String × JsonValue))

namespace Json

/-- Floating-point numbers have an exponent below `10 ^ -5` and from `10 ^ 16` on. -/
def floatStyle : Text.DecimalStyle :=
  ⟨fun p => -5 ≤ p && p < 16⟩

/-! ## Writing -/

def bracketed (opening : String) (items : List String) (closing : String) : String :=
  opening ++ String.intercalate "," items ++ closing

mutual

def render : JsonValue → String
  | .null => "null"
  | .bool b => if b then "true" else "false"
  | .natural n => decimal n
  | .negative n => "-" ++ decimal n
  | .float x => floatText floatStyle x
  | .text s => quote s
  | .array items => bracketed "[" (renderItems items) "]"
  | .object entries => bracketed "\x7b" (renderEntries entries) "\x7d"

def renderItems : List JsonValue → List String
  | [] => []
  | value :: rest => render value :: renderItems rest

def renderEntries : List (String × JsonValue) → List String
  | [] => []
  | (key, value) :: rest => (quote key ++ ":" ++ render value) :: renderEntries rest

end

/-! ## Numbers -/

def wordBound : Nat := UInt64.size

def maxExponent : Nat := 2147483647

def absorb (n : Nat) : List Char → Nat × List Char
  | [] => (n, [])
  | c :: cs =>
      let next := n * 10 + (digitValue? 10 c).getD 0
      if next < wordBound then absorb next cs else (n, c :: cs)

def powerOfTen (n : Nat) : Float :=
  Float.ofScientific 1 false n

def maxPower : Nat := 308

/-- Divides a number by `10 ^ n`, in steps that are floating-point numbers. -/
def divideByPower (x : Float) (n : Nat) : Float :=
  if n ≤ maxPower then x / powerOfTen n
  else if x == 0 then x
  else divideByPower (x / powerOfTen maxPower) (n - maxPower)
termination_by n
decreasing_by simp only [maxPower] at *; omega

/-- Multiplies a number by `10 ^ n`, if the product is finite. -/
def multiplyByPower (x : Float) (n : Nat) : Except JsonFault Float :=
  if n ≤ maxPower then
    let product := x * powerOfTen n
    if product.isInf then .error .malformed else .ok product
  else if x == 0 then .ok x
  else .error .malformed

def scaled (significand : Nat) (exponent : Int) : Except JsonFault Float :=
  let x := (UInt64.ofNat significand).toFloat
  if 0 ≤ exponent then multiplyByPower x exponent.toNat
  else .ok (divideByPower x (-exponent).toNat)

/-- The magnitude of a number as a floating-point number.  Digits that 64 bits do
not hold count as zeros. -/
def Numeral.magnitude (n : Numeral) : Except JsonFault Float := do
  let (front, dropped) := absorb 0 n.whole
  let (significand, unused) := absorb front n.fraction
  let shift : Int := (dropped.length : Int) - (n.fraction.length - unused.length : Nat)
  match n.exponent with
  | none => scaled significand shift
  | some (negative, digits) =>
      let exponent := digits.foldl (fun n c => n * 10 + (digitValue? 10 c).getD 0) 0
      if exponent ≤ maxExponent then
        scaled significand (if negative then shift - exponent else shift + exponent)
      else if negative || significand = 0 then .ok 0
      else .error .malformed

def Numeral.value (n : Numeral) : Except JsonFault JsonValue :=
  let float : Except JsonFault JsonValue := do
    let x ← n.magnitude
    pure (.float (if n.negative then -x else x))
  if n.isWhole then
    let (value, dropped) := absorb 0 n.whole
    if !dropped.isEmpty then float
    else if !n.negative then .ok (.natural value)
    else if 0 < value && value ≤ wordBound / 2 then .ok (.negative value)
    else float
  else float

/-! ## Reading -/

/-- The entries with one more, in the order of the keys; a key that is there
already gets the new value. -/
def insertEntry (key : String) (value : JsonValue) :
    List (String × JsonValue) → List (String × JsonValue)
  | [] => [(key, value)]
  | (k, v) :: rest =>
      if key < k then (key, value) :: (k, v) :: rest
      else if key = k then (key, value) :: rest
      else (k, v) :: insertEntry key value rest

def Word.value : Word → JsonValue
  | null => .null
  | true => .bool Bool.true
  | false => .bool Bool.false

mutual

def Tree.value (room : Nat) : Tree → Except JsonFault JsonValue
  | .missing fault => .error fault
  | .word w ending => do
      raise ending
      pure w.value
  | .number n ending => do
      raise ending
      n.value
  | .text t => t.decode.map .text
  | .array items =>
      match room with
      | 0 => .error .malformed
      | room + 1 => (items.values room).map .array
  | .object entries =>
      match room with
      | 0 => .error .malformed
      | room + 1 => (entries.values room []).map .object

def Items.values (room : Nat) : Items → Except JsonFault (List JsonValue)
  | .finish ending => (raise ending).map fun _ => []
  | .item value rest => do
      let first ← value.value room
      let others ← rest.values room
      pure (first :: others)

def Entries.values (room : Nat) (before : List (String × JsonValue)) :
    Entries → Except JsonFault (List (String × JsonValue))
  | .finish ending => (raise ending).map fun _ => before
  | .entry key value rest => do
      let k ← key.key
      let v ← value.value room
      rest.values room (insertEntry k v before)

end

end Json

end ThingLink
