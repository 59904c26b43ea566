/-!
# Characters and lines of a YAML text

Which characters a text may have, which of them end a line, and how white space
inside a scalar is folded: a single line break counts as a space, and of several
the first one does not count.
-/

namespace ThingLink.Yaml

/-! ## Characters -/

def isAllowed (c : Char) : Bool :=
  let n := c.toNat
  n = 0x09 || n = 0x0A || n = 0x0D || (0x20 ≤ n && n ≤ 0x7E) || n = 0x85
    || (0xA0 ≤ n && n ≤ 0xFFFD) || 0x10000 ≤ n

def isBlank (c : Char) : Bool :=
  c = ' ' || c = '\t'

def isBreak (c : Char) : Bool :=
  c = '\n' || c = '\u2028' || c = '\u2029'

/-- A text with plain line breaks: a carriage return, alone or before a line feed,
and a next-line character become a line feed. -/
def plainBreaks : List Char → List Char
  | [] => []
  | '\r' :: '\n' :: rest => '\n' :: plainBreaks rest
  | '\r' :: rest => '\n' :: plainBreaks rest
  | '\u0085' :: rest => '\n' :: plainBreaks rest
  | c :: rest => c :: plainBreaks rest

/-- Whether a word ends here: at a blank, at a line break, or at the end. -/
def atWordEnd : List Char → Bool
  | [] => true
  | c :: _ => isBlank c || isBreak c

def atDocumentMark (column : Nat) : List Char → Bool
  | '-' :: '-' :: '-' :: rest => column = 0 && atWordEnd rest
  | '.' :: '.' :: '.' :: rest => column = 0 && atWordEnd rest
  | _ => false

/-! ## Positions -/

/-- A place in a text: what is left from there on, and where it is. -/
structure Cursor where
  rest : List Char
  line : Nat := 0
  column : Nat := 0

def Cursor.advance (c : Cursor) (count : Nat) : Cursor :=
  { c with rest := c.rest.drop count, column := c.column + count }

/-! ## Lines -/

structure Line where
  content : List Char
  ending : Option Char

def lines : List Char → List Line
  | [] => []
  | c :: rest =>
      if isBreak c then ⟨[], some c⟩ :: lines rest
      else
        match lines rest with
        | [] => [⟨[c], none⟩]
        | next :: others => ⟨c :: next.content, next.ending⟩ :: others

def unlines (ls : List Line) : List Char :=
  ls.flatMap fun line => line.content ++ line.ending.toList

/-! ## Folding -/

/-- White space met after the last character of a scalar. -/
inductive Gap where
  | nothing
  | blanks (cs : List Char)
  /-- Line breaks; blanks around them do not count. -/
  | breaks (first : Char) (more : List Char)
  /-- A line break that does not count, and breaks after it. -/
  | joined (more : List Char)

namespace Gap

def addBlank (c : Char) : Gap → Gap
  | nothing => blanks [c]
  | blanks cs => blanks (cs ++ [c])
  | gap => gap

def addBreak (c : Char) : Gap → Gap
  | nothing | blanks _ => breaks c []
  | breaks first more => breaks first (more ++ [c])
  | joined more => joined (more ++ [c])

def isNothing : Gap → Bool
  | nothing => true
  | _ => false

def isBroken : Gap → Bool
  | breaks .. | joined _ => true
  | _ => false

/-- What a gap counts for. -/
def text : Gap → List Char
  | nothing => []
  | blanks cs => cs
  | breaks '\n' [] => [' ']
  | breaks '\n' more => more
  | breaks first more => first :: more
  | joined more => more

end Gap

end ThingLink.Yaml
