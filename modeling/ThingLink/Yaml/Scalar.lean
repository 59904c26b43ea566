import ThingLink.Text.Integer
import ThingLink.Yaml.Line

/-!
# Scalars in a YAML text

A scalar is plain, quoted, or a block of lines.  Each of the readers below begins
behind what announces the scalar and gives its text and the place after it, or
nothing if the text is not well formed.
-/

namespace ThingLink.Yaml

open Text (hexValue?)

/-- A scalar.  The quotation marks keep a text from meaning something else. -/
inductive Scalar where
  | plain (text : String)
  | quoted (text : String)
  deriving DecidableEq, Repr

def Scalar.text : Scalar → String
  | plain text => text
  | quoted text => text

structure ReadScalar where
  text : String
  /-- Whether a line ended in the white space behind the scalar. -/
  broken : Bool
  next : Cursor

def piled (cs : List Char) : String :=
  String.ofList cs.reverse

/-! ## Plain scalars -/

/-- Reads a plain scalar whose further lines keep right of `margin`, outside of
brackets. -/
def readPlain (bracketed : Bool) (margin : Int) (pile : List Char) (gap : Gap) (line column : Nat) :
    List Char → Option ReadScalar
  | [] => some ⟨piled pile, gap.isBroken, ⟨[], line, column⟩⟩
  | c :: rest =>
      let stop := some ⟨piled pile, gap.isBroken, ⟨c :: rest, line, column⟩⟩
      if isBreak c then readPlain bracketed margin pile (gap.addBreak c) (line + 1) 0 rest
      else if isBlank c then
        if c = '\t' && gap.isBroken && column < margin then none
        else readPlain bracketed margin pile (gap.addBlank c) line (column + 1) rest
      else if !gap.isNothing && (c = '#' || (!bracketed && column < margin)
          || atDocumentMark column (c :: rest)) then stop
      else if bracketed && c = ':' && rest.head?.any (",?[]\x7b\x7d".contains ·) then none
      else if (c = ':' && atWordEnd rest) || (bracketed && ",[]\x7b\x7d".contains c) then stop
      else readPlain bracketed margin (c :: gap.text.reverse ++ pile) .nothing line (column + 1) rest

/-! ## Quoted scalars -/

/-- Reads a scalar in single quotation marks; a doubled mark stands for itself. -/
def readSingle (pile : List Char) (gap : Gap) (line column : Nat) : List Char → Option ReadScalar
  | [] => none
  | '\'' :: '\'' :: rest =>
      readSingle ('\'' :: gap.text.reverse ++ pile) .nothing line (column + 2) rest
  | '\'' :: rest => some ⟨piled (gap.text.reverse ++ pile), false, ⟨rest, line, column + 1⟩⟩
  | c :: rest =>
      if isBreak c then readSingle pile (gap.addBreak c) (line + 1) 0 rest
      else if isBlank c then readSingle pile (gap.addBlank c) line (column + 1) rest
      else if atDocumentMark column (c :: rest) then none
      else readSingle (c :: gap.text.reverse ++ pile) .nothing line (column + 1) rest

def unescape? (c : Char) : Option Char :=
  match c with
  | '0' => some '\x00'
  | 'a' => some '\x07'
  | 'b' => some '\x08'
  | 't' => some '\t'
  | '\t' => some '\t'
  | 'n' => some '\n'
  | 'v' => some '\x0b'
  | 'f' => some '\x0c'
  | 'r' => some '\r'
  | 'e' => some '\x1b'
  | ' ' => some ' '
  | '"' => some '"'
  | '/' => some '/'
  | '\\' => some '\\'
  | 'N' => some '\u0085'
  | '_' => some '\u00a0'
  | 'L' => some '\u2028'
  | 'P' => some '\u2029'
  | _ => none

def escapeWidth? (c : Char) : Option Nat :=
  match c with
  | 'x' => some 2
  | 'u' => some 4
  | 'U' => some 8
  | _ => none

def character? (n : Nat) : Option Char :=
  if n.isValidChar then some (Char.ofNat n) else none

inductive Expecting where
  | text
  | escape
  /-- As many more digits of a number, after those already worth `value`. -/
  | digits (count value : Nat)

def readDouble (expecting : Expecting) (pile : List Char) (gap : Gap) (line column : Nat) :
    List Char → Option ReadScalar
  | [] => none
  | c :: rest =>
      match expecting with
      | .text =>
          if c = '"' then some ⟨piled (gap.text.reverse ++ pile), false, ⟨rest, line, column + 1⟩⟩
          else if isBreak c then readDouble .text pile (gap.addBreak c) (line + 1) 0 rest
          else if isBlank c then readDouble .text pile (gap.addBlank c) line (column + 1) rest
          else if atDocumentMark column (c :: rest) then none
          else if c = '\\' then
            readDouble .escape (gap.text.reverse ++ pile) .nothing line (column + 1) rest
          else readDouble .text (c :: gap.text.reverse ++ pile) .nothing line (column + 1) rest
      | .escape =>
          if isBreak c then readDouble .text pile (.joined []) (line + 1) 0 rest
          else
            match escapeWidth? c, unescape? c with
            | some width, _ => readDouble (.digits width 0) pile .nothing line (column + 1) rest
            | none, some e => readDouble .text (e :: pile) .nothing line (column + 1) rest
            | none, none => none
      | .digits count value =>
          match hexValue? c with
          | none => none
          | some d =>
              let value := value * 16 + d
              if 1 < count then
                readDouble (.digits (count - 1) value) pile .nothing line (column + 1) rest
              else
                match character? value with
                | none => none
                | some e => readDouble .text (e :: pile) .nothing line (column + 1) rest

/-! ## Block scalars -/

inductive Chomping where
  /-- All are dropped. -/
  | strip
  /-- One is kept. -/
  | clip
  /-- All are kept. -/
  | keep

structure BlockHeader where
  chomping : Chomping := .clip
  /-- How far the block is indented, if the line says so. -/
  increment : Option Nat := none

def readIncrement (h : BlockHeader) : List Char → Option (BlockHeader × List Char)
  | c :: rest =>
      if c = '0' then none
      else if c.isDigit then some ({ h with increment := hexValue? c }, rest)
      else some (h, c :: rest)
  | [] => some (h, [])

def readChomping (h : BlockHeader) : List Char → BlockHeader × List Char
  | '+' :: rest => ({ h with chomping := .keep }, rest)
  | '-' :: rest => ({ h with chomping := .strip }, rest)
  | rest => (h, rest)

/-- Reads what stands behind the sign of a block: at most one digit and one other
sign, in either order, and then perhaps a comment. -/
def readHeader (cs : List Char) : Option BlockHeader := do
  let (h, rest) := readChomping {} cs
  let (h, left) ← readIncrement h rest
  let (h, left) := if rest.length = cs.length then readChomping h left else (h, left)
  match left.dropWhile isBlank with
  | [] => some h
  | c :: _ => if c = '#' then some h else none

/-- The indentation of a block that does not say it: that of its first line with
text or of a longer one before it, and at least `least`. -/
def findIndent (least widest : Nat) : List Line → Option Nat
  | [] => some (max widest least)
  | ⟨content, ending⟩ :: rest =>
      let spaces := (content.takeWhile (· = ' ')).length
      match content.drop spaces, ending with
      | '\t' :: _, _ => none
      | [], some _ => findIndent least (max widest spaces) rest
      | _, _ => some (max (max widest spaces) least)

structure BlockText where
  text : List Char := []
  /-- The break of the last line with text. -/
  lastBreak : Option Char := none
  /-- The breaks of the empty lines after it. -/
  emptyLines : List Char := []
  /-- Whether the last line with text begins with a blank. -/
  startsBlank : Bool := false

/-- The block with one more line.  Folding joins lines that begin with no blank. -/
def BlockText.addLine (b : BlockText) (folded : Bool) (content : List Char)
    (ending : Option Char) : BlockText :=
  let blank := content.head?.any isBlank
  let between :=
    if folded && b.lastBreak == some '\n' && !b.startsBlank && !blank then
      if b.emptyLines.isEmpty then [' '] else []
    else b.lastBreak.toList
  ⟨b.text ++ between ++ b.emptyLines ++ content, ending, [], blank⟩

def BlockText.finish (b : BlockText) : Chomping → List Char
  | .strip => b.text
  | .clip => b.text ++ b.lastBreak.toList
  | .keep => b.text ++ b.lastBreak.toList ++ b.emptyLines

/-- Reads the lines of a block with a known indentation; `line` is the number of
the first one. -/
def readBlockLines (folded : Bool) (indent : Nat) (b : BlockText) (line : Nat) :
    List Line → Option (BlockText × Cursor)
  | [] => some (b, ⟨[], line, 0⟩)
  | ⟨content, ending⟩ :: rest =>
      let spaces := min indent (content.takeWhile (· = ' ')).length
      match content.drop spaces, ending with
      | [], some e =>
          readBlockLines folded indent { b with emptyLines := b.emptyLines ++ [e] } (line + 1) rest
      | [], none => some (b, ⟨[], line, spaces⟩)
      | c :: more, ending =>
          if spaces < indent then
            if c = '\t' then none
            else some (b, ⟨unlines (⟨c :: more, ending⟩ :: rest), line, spaces⟩)
          else
            readBlockLines folded indent (b.addLine folded (c :: more) ending) (line + 1) rest

/-- Reads a block inside of a structure that is indented by `parent`, or by nothing
if that is negative. -/
def readBlock (folded : Bool) (parent : Int) (start : Cursor) : Option ReadScalar := do
  match lines start.rest with
  | [] =>
      let _ ← readHeader []
      pure ⟨"", false, ⟨[], start.line, start.column⟩⟩
  | header :: rest =>
      let h ← readHeader header.content
      let indent ←
        match h.increment with
        | some n => pure (if 0 ≤ parent then parent.toNat + n else n)
        | none => findIndent (max 1 (parent + 1).toNat) 0 rest
      let (b, next) ← readBlockLines folded indent {} (start.line + 1) rest
      pure ⟨String.ofList (b.finish h.chomping), false, next⟩

end ThingLink.Yaml
