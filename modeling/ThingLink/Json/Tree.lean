import ThingLink.Json.Quoted

/-!
# JSON texts taken apart

A `Tree` is the shape of a JSON text, as far as it can be made out.  Where the
text breaks off, the tree holds the fault in the place where it was met, so that
a reader who walks the tree in order meets every problem in the order of the
text, its own ones included.
-/

namespace ThingLink.Json

/-! ## Numerals -/

structure Numeral where
  negative : Bool
  whole : List Char
  fraction : List Char := []
  /-- Whether the exponent is negative, and its digits. -/
  exponent : Option (Bool × List Char) := none
  deriving DecidableEq, Repr

def Numeral.isWhole (n : Numeral) : Bool :=
  n.fraction.isEmpty && n.exponent.isNone

def missingDigit (rest : List Char) : JsonFault :=
  if rest.isEmpty then .cutShort else .malformed

def digitRun (cs : List Char) : List Char × List Char :=
  (cs.takeWhile Char.isDigit, cs.dropWhile Char.isDigit)

abbrev ScannedNumeral := Numeral × Option JsonFault × List Char

def scanExponent (n : Numeral) (cs : List Char) : ScannedNumeral :=
  let unsigned (negative : Bool) (cs : List Char) : ScannedNumeral :=
    let (digits, rest) := digitRun cs
    if digits.isEmpty then (n, some (missingDigit rest), [])
    else ({ n with exponent := some (negative, digits) }, none, rest)
  match cs with
  | '+' :: rest => unsigned false rest
  | '-' :: rest => unsigned true rest
  | rest => unsigned false rest

def scanScale (n : Numeral) : List Char → ScannedNumeral
  | 'e' :: rest => scanExponent n rest
  | 'E' :: rest => scanExponent n rest
  | rest => (n, none, rest)

def scanFraction (n : Numeral) : List Char → ScannedNumeral
  | '.' :: rest =>
      let (digits, rest) := digitRun rest
      if digits.isEmpty then (n, some (missingDigit rest), [])
      else scanScale { n with fraction := digits } rest
  | rest => scanScale n rest

/-- Takes a number whose sign is known.  A leading zero stands alone. -/
def scanMagnitude (negative : Bool) (cs : List Char) : ScannedNumeral :=
  let (digits, rest) := digitRun cs
  match digits with
  | [] => (⟨negative, [], [], none⟩, some (missingDigit rest), [])
  | '0' :: _ :: _ => (⟨negative, ['0'], [], none⟩, some .malformed, [])
  | digits => scanFraction ⟨negative, digits, [], none⟩ rest

def scanNumeral : List Char → ScannedNumeral
  | '-' :: rest => scanMagnitude true rest
  | rest => scanMagnitude false rest

/-! ## Trees -/

inductive Word where
  | null
  | true
  | false
  deriving DecidableEq, Repr

def Word.letters : Word → List Char
  | null => ['n', 'u', 'l', 'l']
  | true => ['t', 'r', 'u', 'e']
  | false => ['f', 'a', 'l', 's', 'e']

def scanLetters : List Char → List Char → Option JsonFault × List Char
  | [], rest => (none, rest)
  | _ :: _, [] => (some .cutShort, [])
  | letter :: letters, c :: rest =>
      if c = letter then scanLetters letters rest else (some .malformed, [])

mutual

inductive Tree where
  | missing (fault : JsonFault)
  | word (w : Word) (ending : Option JsonFault)
  | number (n : Numeral) (ending : Option JsonFault)
  | text (t : StringText)
  | array (items : Items)
  | object (entries : Entries)

inductive Items where
  /-- The array is closed, or broken off. -/
  | finish (ending : Option JsonFault)
  | item (value : Tree) (rest : Items)

inductive Entries where
  | finish (ending : Option JsonFault)
  | entry (key value : Tree) (rest : Entries)

end

def isSpace (c : Char) : Bool :=
  c = ' ' || c = '\t' || c = '\n' || c = '\r'

def skipSpace (cs : List Char) : List Char :=
  cs.dropWhile isSpace

def scanWord (w : Word) (rest : List Char) : Tree × List Char :=
  let (ending, rest) := scanLetters w.letters.tail rest
  (.word w ending, rest)

mutual

/-- Takes a value off the front of a text; `fuel` bounds the depth of the calls. -/
def scanTree : (fuel : Nat) → List Char → Tree × List Char
  | 0, _ => (.missing .malformed, [])
  | fuel + 1, cs =>
      match skipSpace cs with
      | [] => (.missing .cutShort, [])
      | '"' :: rest =>
          let (t, rest) := scanString rest
          (.text t, rest)
      | '[' :: rest =>
          match skipSpace rest with
          | ']' :: rest => (.array (.finish none), rest)
          | [] => (.array (.finish (some .cutShort)), [])
          | rest =>
              let (items, rest) := scanItems fuel rest
              (.array items, rest)
      | '{' :: rest =>
          match skipSpace rest with
          | '}' :: rest => (.object (.finish none), rest)
          | [] => (.object (.finish (some .cutShort)), [])
          | rest =>
              let (entries, rest) := scanEntries fuel rest
              (.object entries, rest)
      | 'n' :: rest => scanWord .null rest
      | 't' :: rest => scanWord .true rest
      | 'f' :: rest => scanWord .false rest
      | c :: rest =>
          if c = '-' || c.isDigit then
            let (n, ending, rest) := scanNumeral (c :: rest)
            (.number n ending, rest)
          else (.missing .malformed, [])

def scanItems : (fuel : Nat) → List Char → Items × List Char
  | 0, _ => (.finish (some .malformed), [])
  | fuel + 1, cs =>
      let (value, rest) := scanTree fuel cs
      match skipSpace rest with
      | [] => (.item value (.finish (some .cutShort)), [])
      | ']' :: rest => (.item value (.finish none), rest)
      | ',' :: rest =>
          let (items, rest) := scanItems fuel rest
          (.item value items, rest)
      | _ :: _ => (.item value (.finish (some .malformed)), [])

def scanEntries : (fuel : Nat) → List Char → Entries × List Char
  | 0, _ => (.finish (some .malformed), [])
  | fuel + 1, cs =>
      let (key, rest) := scanTree fuel cs
      match skipSpace rest with
      | [] => (.entry key (.missing .cutShort) (.finish none), [])
      | ':' :: rest =>
          let (value, rest) := scanTree fuel rest
          match skipSpace rest with
          | [] => (.entry key value (.finish (some .cutShort)), [])
          | '}' :: rest => (.entry key value (.finish none), rest)
          | ',' :: rest =>
              let (entries, rest) := scanEntries fuel rest
              (.entry key value entries, rest)
          | _ :: _ => (.entry key value (.finish (some .malformed)), [])
      | _ :: _ => (.entry key (.missing .malformed) (.finish none), [])

end

/-- The shape of a text, and what follows it.  Every call takes a character before
the next one of its own kind, so the fuel cannot run out. -/
def Tree.ofText (cs : List Char) : Tree × List Char :=
  scanTree (2 * cs.length + 2) cs

/-! ## Walking a tree -/

def raise : Option JsonFault → Except JsonFault Unit
  | some fault => .error fault
  | none => .ok ()

def Tree.key : Tree → Except JsonFault String
  | .text t => t.decode
  | .missing fault => .error fault
  | _ => .error .malformed

mutual

/-- Passes over a value of no interest; only its form is checked. -/
def Tree.skip : Tree → Except JsonFault Unit
  | .missing fault => .error fault
  | .word _ ending => raise ending
  | .number _ ending => if ending.isSome then .error .malformed else .ok ()
  | .text t => raise t.ending
  | .array items => items.skip
  | .object entries => entries.skip

def Items.skip : Items → Except JsonFault Unit
  | .finish ending => raise ending
  | .item value rest => do
      value.skip
      rest.skip

def Entries.skip : Entries → Except JsonFault Unit
  | .finish ending => raise ending
  | .entry key value rest => do
      match key with
      | .text t => raise t.ending
      | .missing fault => .error fault
      | _ => .error .malformed
      value.skip
      rest.skip

end

end ThingLink.Json
