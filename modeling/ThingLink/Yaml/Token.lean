import ThingLink.Yaml.Scalar

/-!
# Tokens of a YAML text

`tokens?` cuts a text into tokens.  Structure that the text shows by indentation
becomes tokens of its own.  A scalar or a bracket may turn out to be a key only when
a colon follows it; until then it is remembered as a `Candidate`, and the tokens of
the key are put in where it began.
-/

namespace ThingLink.Yaml

inductive Token where
  | documentStart
  | documentEnd
  | blockSequence
  | blockMapping
  | blockEnd
  | flowSequence
  | flowSequenceEnd
  | flowMapping
  | flowMappingEnd
  | blockEntry
  | flowEntry
  | key
  | value
  | alias (name : String)
  | anchor (name : String)
  | scalar (s : Scalar)
  deriving DecidableEq, Repr

structure Candidate where
  position : Nat
  line : Nat
  column : Nat
  /-- Whether nothing but a key can stand here. -/
  required : Bool

def maxKeyWidth : Nat := 1024

def Candidate.isStale (k : Candidate) (here : Cursor) : Bool :=
  k.line < here.line || k.column + maxKeyWidth < here.column

structure Scanner where
  here : Cursor
  /-- The tokens found, the last one first. -/
  pile : List Token := []
  /-- The column of the innermost block, negative outside of all blocks. -/
  indent : Int := -1
  /-- The columns of the blocks around it. -/
  outer : List Int := []
  /-- What may begin a key between the innermost brackets. -/
  candidate : Option Candidate := none
  /-- What may begin a key around them, one entry for each pair of brackets. -/
  around : List (Option Candidate) := []
  /-- Whether a key may begin here. -/
  keyAllowed : Bool := true

namespace Scanner

def bracketed (s : Scanner) : Bool :=
  !s.around.isEmpty

def push (s : Scanner) (t : Token) : Scanner :=
  { s with pile := t :: s.pile }

def insert (s : Scanner) (position : Nat) (t : Token) : Scanner :=
  let later := s.pile.length - position
  { s with pile := s.pile.take later ++ t :: s.pile.drop later }

def advance (s : Scanner) (count : Nat) : Scanner :=
  { s with here := s.here.advance count }

/-! ## Keys -/

/-- Gives a candidate up, unless it had to become a key. -/
def abandon : Option Candidate → Option (Option Candidate)
  | some k => if k.required then none else some none
  | none => some none

def dropStale (s : Scanner) : Option Scanner := do
  let check (k? : Option Candidate) : Option (Option Candidate) :=
    if k?.any (·.isStale s.here) then abandon k? else some k?
  let candidate ← check s.candidate
  let around ← s.around.mapM check
  pure { s with candidate, around }

def dropCandidate (s : Scanner) : Option Scanner := do
  pure { s with candidate := ← abandon s.candidate }

def remember (s : Scanner) : Option Scanner :=
  if s.keyAllowed then do
    let s ← s.dropCandidate
    let required := !s.bracketed && s.indent = s.here.column
    pure { s with candidate := some ⟨s.pile.length, s.here.line, s.here.column, required⟩ }
  else some s

/-! ## Blocks -/

/-- Opens a block at a column, unless there is one already. -/
def openBlock (s : Scanner) (column position : Nat) (t : Token) : Scanner :=
  if !s.bracketed && s.indent < column then
    { s.insert position t with outer := s.indent :: s.outer, indent := column }
  else s

/-- Closes the innermost of some blocks as long as they are right of a column. -/
def closeBlocks (column : Int) : List Int → Int → List Token → List Int × Int × List Token
  | outer, indent, pile =>
      if column < indent then
        match outer with
        | [] => ([], -1, .blockEnd :: pile)
        | next :: outer => closeBlocks column outer next (.blockEnd :: pile)
      else (outer, indent, pile)

def closeTo (s : Scanner) (column : Int) : Scanner :=
  if s.bracketed then s
  else
    let (outer, indent, pile) := closeBlocks column s.outer s.indent s.pile
    { s with outer, indent, pile }

/-! ## White space and comments -/

/-- Passes over white space and comments.  A tab may not stand where a key may
begin, and outside of brackets a new line may begin with a key. -/
def skipTo (bracketed comment allowed : Bool) (line column : Nat) : List Char → Cursor × Bool
  | [] => (⟨[], line, column⟩, allowed)
  | c :: rest =>
      if isBreak c then skipTo bracketed false (allowed || !bracketed) (line + 1) 0 rest
      else if comment then skipTo bracketed true allowed line (column + 1) rest
      else if c = ' ' || (c = '\t' && (bracketed || !allowed)) then
        skipTo bracketed false allowed line (column + 1) rest
      else if c = '#' then skipTo bracketed true allowed line (column + 1) rest
      else (⟨c :: rest, line, column⟩, allowed)

def skip (s : Scanner) : Scanner :=
  let (here, keyAllowed) :=
    skipTo s.bracketed false s.keyAllowed s.here.line s.here.column s.here.rest
  { s with here, keyAllowed }

/-! ## Single tokens -/

def documentMark (s : Scanner) (t : Token) : Option Scanner := do
  let s ← (s.closeTo (-1)).dropCandidate
  pure (({ s with keyAllowed := false }.push t).advance 3)

def openBracket (s : Scanner) (t : Token) : Option Scanner := do
  let s ← s.remember
  pure (({ s with candidate := none, around := s.candidate :: s.around, keyAllowed := true }.push
    t).advance 1)

def closeBracket (s : Scanner) (t : Token) : Option Scanner := do
  let s ← s.dropCandidate
  let s := match s.around with
    | [] => s
    | candidate :: around => { s with candidate, around }
  pure (({ s with keyAllowed := false }.push t).advance 1)

def flowEntry (s : Scanner) : Option Scanner := do
  let s ← s.dropCandidate
  pure (({ s with keyAllowed := true }.push .flowEntry).advance 1)

def blockEntry (s : Scanner) : Option Scanner := do
  if !s.bracketed && !s.keyAllowed then none
  else
    let s ← (s.openBlock s.here.column s.pile.length .blockSequence).dropCandidate
    pure (({ s with keyAllowed := true }.push .blockEntry).advance 1)

def explicitKey (s : Scanner) : Option Scanner := do
  if !s.bracketed && !s.keyAllowed then none
  else
    let s ← (s.openBlock s.here.column s.pile.length .blockMapping).dropCandidate
    pure (({ s with keyAllowed := !s.bracketed }.push .key).advance 1)

def value (s : Scanner) : Option Scanner :=
  match s.candidate with
  | some k =>
      let s := (s.insert k.position .key).openBlock k.column k.position .blockMapping
      some (({ s with candidate := none, keyAllowed := false }.push .value).advance 1)
  | none =>
      if !s.bracketed && !s.keyAllowed then none
      else
        let s := s.openBlock s.here.column s.pile.length .blockMapping
        some (({ s with keyAllowed := !s.bracketed }.push .value).advance 1)

def isNameChar (c : Char) : Bool :=
  c.isAlphanum || c = '_' || c = '-'

def named (s : Scanner) (t : String → Token) : Option Scanner := do
  let s ← s.remember
  let name := (s.here.rest.drop 1).takeWhile isNameChar
  let after := s.here.rest.drop (name.length + 1)
  if name.isEmpty || !(atWordEnd after || after.head?.any ("?:,]\x7d%@\x60".contains ·)) then none
  else pure (({ s with keyAllowed := false }.push (t (String.ofList name))).advance (name.length + 1))

def inlineScalar (s : Scanner) (t : String → Scalar) (read : Cursor → Option ReadScalar) :
    Option Scanner := do
  let s ← s.remember
  let r ← read s.here
  pure { s.push (.scalar (t r.text)) with here := r.next, keyAllowed := r.broken }

def blockScalar (s : Scanner) (folded : Bool) : Option Scanner := do
  let s ← s.dropCandidate
  let r ← readBlock folded s.indent (s.here.advance 1)
  pure { s.push (.scalar (.quoted r.text)) with here := r.next, keyAllowed := true }

def plainScalar (s : Scanner) : Option Scanner :=
  s.inlineScalar .plain fun here =>
    readPlain s.bracketed (s.indent + 1) [] .nothing here.line here.column here.rest

/-- Whether a plain scalar can begin with a character that has a meaning elsewhere. -/
def beginsPlain (s : Scanner) (c : Char) (rest : List Char) : Bool :=
  if c = '-' then !(rest.head?.any isBlank)
  else if c = '?' || c = ':' then !s.bracketed && !atWordEnd rest
  else !(",[]\x7b\x7d#&*!|>'\"%@\x60".contains c)

def take (s : Scanner) (c : Char) (rest : List Char) : Option Scanner :=
  let column := s.here.column
  if column = 0 && c = '%' then none
  else if atDocumentMark column (c :: rest) then
    s.documentMark (if c = '-' then .documentStart else .documentEnd)
  else if c = '[' then s.openBracket .flowSequence
  else if c = '\x7b' then s.openBracket .flowMapping
  else if c = ']' then s.closeBracket .flowSequenceEnd
  else if c = '\x7d' then s.closeBracket .flowMappingEnd
  else if c = ',' then s.flowEntry
  else if c = '-' && atWordEnd rest then s.blockEntry
  else if c = '?' && (s.bracketed || atWordEnd rest) then s.explicitKey
  else if c = ':' && (s.bracketed || atWordEnd rest) then s.value
  else if c = '*' then s.named .alias
  else if c = '&' then s.named .anchor
  else if c = '|' && !s.bracketed then s.blockScalar false
  else if c = '>' && !s.bracketed then s.blockScalar true
  else if c = '\'' then
    s.inlineScalar .quoted fun here =>
      readSingle [] .nothing here.line (here.column + 1) rest
  else if c = '"' then
    s.inlineScalar .quoted fun here =>
      readDouble .text [] .nothing here.line (here.column + 1) rest
  else if s.beginsPlain c rest then s.plainScalar
  else none

/-- Cuts the rest of a text; every round takes at least one character. -/
def run : (fuel : Nat) → Scanner → Option (List Token)
  | 0, _ => none
  | fuel + 1, s => do
      let s ← s.skip.dropStale
      let s := s.closeTo s.here.column
      match s.here.rest with
      | [] =>
          let s ← (s.closeTo (-1)).dropCandidate
          pure s.pile.reverse
      | c :: rest =>
          if isBlank c then none
          else
            let s ← s.take c rest
            run fuel s

end Scanner

/-- The tokens of a text, if it can be cut into tokens.  A byte order mark in front
takes up a column. -/
def tokens? (text : String) : Option (List Token) :=
  if !text.toList.all isAllowed then none
  else
    let cs := plainBreaks text.toList
    let here : Cursor := match cs with
      | '\uFEFF' :: rest => ⟨rest, 0, 1⟩
      | cs => ⟨cs, 0, 0⟩
    { here : Scanner }.run (cs.length + 1)

end ThingLink.Yaml
