import ThingLink.Yaml.Meaning

/-!
# Writing YAML

A document of mappings is written in blocks, two columns deeper with each level.  A
text is written plain where it reads back as the same text; otherwise between
quotation marks, or as a block if it has several lines.
-/

namespace ThingLink.Yaml

open Text (paddedDigits)

/-! ## What a text has in it -/

def isPrintable (c : Char) : Bool :=
  let n := c.toNat
  n = 0x0A || (0x20 ≤ n && n ≤ 0x7E) || (0xA0 ≤ n && n ≤ 0xFFFD && n ≠ 0xFEFF)

/-- Whether the characters of a text, the first one aside, keep it from being plain:
a colon at the end of a word, or a number sign at the beginning of one. -/
def hasInnerIndicator : (previous : Char) → List Char → Bool
  | _, [] => false
  | previous, c :: rest =>
      (c = ':' && atWordEnd rest)
        || (c = '#' && (isBlank previous || isBreak previous))
        || hasInnerIndicator c rest

def hasLeadingIndicator : List Char → Bool
  | [] => false
  | '-' :: '-' :: '-' :: _ => true
  | '.' :: '.' :: '.' :: _ => true
  | c :: rest =>
      ",[]\x7b\x7d#&*!|>'\"%@\x60".contains c
        || ((c = '?' || c = ':' || c = '-') && atWordEnd rest)

/-- Whether the first of two characters stands somewhere in front of the second. -/
def hasPair (p q : Char → Bool) : List Char → Bool
  | [] => false
  | [_] => false
  | a :: b :: rest => (p a && q b) || hasPair p q (b :: rest)

inductive TextStyle where
  | plain
  | single
  | double
  | block
  deriving DecidableEq

/-- Whether a text reads back as a text when it is written plain. -/
def meansText (s : String) : Bool :=
  match meaning s with
  | .text => !hasLeadingZero s.toList
  | _ => false

def textStyle (s : String) : TextStyle :=
  let cs := s.toList
  let atEnds (p : Char → Bool) : Bool := cs.head?.any p || cs.getLast?.any p
  let special := !cs.all isPrintable || hasPair (· = ' ') isBreak cs
  if special then .double
  else if cs.contains '\n' then
    if cs.getLast? = some ' ' then .double else .block
  else if hasPair isBreak (· = ' ') cs then .double
  else if !meansText s || atEnds (· = ' ') || cs.any isBreak || hasLeadingIndicator cs
      || hasInnerIndicator (cs.headD ' ') cs.tail then .single
  else .plain

/-! ## Writing texts -/

def upperHex (width n : Nat) : List Char :=
  (paddedDigits 16 width n).map Char.toUpper

def doubleQuotedChar (c : Char) : List Char :=
  match c with
  | '\x00' => ['\\', '0']
  | '\x07' => ['\\', 'a']
  | '\x08' => ['\\', 'b']
  | '\t' => ['\\', 't']
  | '\n' => ['\\', 'n']
  | '\x0b' => ['\\', 'v']
  | '\x0c' => ['\\', 'f']
  | '\r' => ['\\', 'r']
  | '\x1b' => ['\\', 'e']
  | '"' => ['\\', '"']
  | '\\' => ['\\', '\\']
  | '\u0085' => ['\\', 'N']
  | '\u2028' => ['\\', 'L']
  | '\u2029' => ['\\', 'P']
  | c =>
      if isPrintable c then [c]
      else if c.toNat ≤ 0xFF then '\\' :: 'x' :: upperHex 2 c.toNat
      else if c.toNat ≤ 0xFFFF then '\\' :: 'u' :: upperHex 4 c.toNat
      else '\\' :: 'U' :: upperHex 8 c.toNat

def singleQuoted (s : String) : String :=
  "'" ++ s.replace "'" "''" ++ "'"

def doubleQuoted (s : String) : String :=
  String.ofList ('"' :: s.toList.flatMap doubleQuotedChar ++ ['"'])

def blockText (indent : Nat) (s : String) : String :=
  let cs := s.toList
  let width := if cs.head?.any fun c => c = ' ' || isBreak c then "2" else ""
  let chomping :=
    match cs.reverse with
    | [] => "-"
    | last :: before =>
        if !isBreak last then "-"
        else if before.head?.all isBreak then "+"
        else ""
  let line (l : Line) : List Char :=
    (if l.content.isEmpty then [] else List.replicate indent ' ' ++ l.content) ++ l.ending.toList
  "|" ++ width ++ chomping ++ "\n" ++ String.ofList ((lines cs).flatMap line)

/-- A text as the value of a key, with the line break behind it; its lines are
`indent` columns deep if it has several. -/
def printText (indent : Nat) (s : String) : String :=
  match textStyle s with
  | .plain => s ++ "\n"
  | .single => singleQuoted s ++ "\n"
  | .double => doubleQuoted s ++ "\n"
  | .block =>
      let block := blockText indent s
      if s.toList.getLast?.any isBreak then block else block ++ "\n"

def printScalar (indent : Nat) : Scalar → String
  | .plain text => text ++ "\n"
  | .quoted text => printText indent text

/-! ## Writing sections -/

def printEntry (entry : String × Scalar) : String :=
  "  " ++ entry.1 ++ ": " ++ printScalar 4 entry.2

/-- A document of sections, each of which is a key with keys below it. -/
def printSections (sections : List (String × List (String × Scalar))) : String :=
  String.join (sections.map fun (name, entries) =>
    name ++ ":\n" ++ String.join (entries.map printEntry))

def Node.ofSections (sections : List (String × List (String × Scalar))) : Node :=
  .mapping (sections.map fun (name, entries) =>
    (.scalar (.plain name),
      .mapping (entries.map fun (key, value) => (.scalar (.plain key), .scalar value))))

end ThingLink.Yaml
