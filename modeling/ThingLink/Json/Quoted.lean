import ThingLink.Text.Integer

/-!
# JSON strings

`quote` writes a text between quotation marks; `scanString` takes a string apart
into pieces up to its closing mark, and `StringText.decode` puts the pieces
together.  A string may break off; the fault that ends it comes after its pieces,
so that an earlier fault wins.
-/

namespace ThingLink

open Text (hexValue? paddedHex)

inductive JsonFault where
  | malformed
  | cutShort
  | unfit (detail : String)
  deriving DecidableEq, Repr

def JsonFault.message : JsonFault → String
  | malformed => "malformed text"
  | cutShort => "text ends too early"
  | unfit detail => detail

namespace Json

/-! ## Writing -/

def escaped (c : Char) : List Char :=
  match c with
  | '"' => ['\\', '"']
  | '\\' => ['\\', '\\']
  | '\x08' => ['\\', 'b']
  | '\x0c' => ['\\', 'f']
  | '\n' => ['\\', 'n']
  | '\r' => ['\\', 'r']
  | '\t' => ['\\', 't']
  | c => if c < ' ' then '\\' :: 'u' :: (paddedHex 4 c.toNat).toList else [c]

def quote (s : String) : String :=
  String.ofList ('"' :: s.toList.flatMap escaped ++ ['"'])

/-! ## Taking apart -/

/-- A piece of a string: a character, or a UTF-16 unit given by its number. -/
inductive Piece where
  | char (c : Char)
  | unit (n : Nat)
  deriving DecidableEq, Repr

/-- The pieces of a string, and the fault that ends it if it is not closed. -/
structure StringText where
  pieces : List Piece
  ending : Option JsonFault
  deriving DecidableEq, Repr

def StringText.cons (p : Piece) (t : StringText) : StringText :=
  ⟨p :: t.pieces, t.ending⟩

def unescape? (c : Char) : Option Char :=
  match c with
  | '"' => some '"'
  | '\\' => some '\\'
  | '/' => some '/'
  | 'b' => some '\x08'
  | 'f' => some '\x0c'
  | 'n' => some '\n'
  | 'r' => some '\r'
  | 't' => some '\t'
  | _ => none

def fourDigits? (a b c d : Char) : Option Nat := do
  let a ← hexValue? a
  let b ← hexValue? b
  let c ← hexValue? c
  let d ← hexValue? d
  pure (((a * 16 + b) * 16 + c) * 16 + d)

/-- The fault of a `\u` that four digits do not follow: with fewer than four bytes
left, the text is cut short. -/
def missingDigits (rest : List Char) : JsonFault :=
  if (String.ofList rest).utf8ByteSize < 4 then .cutShort else .malformed

/-- Takes a string apart from behind its opening mark; what follows the closing
mark is left. -/
def scanString : List Char → StringText × List Char
  | [] => (⟨[], some .cutShort⟩, [])
  | '"' :: rest => (⟨[], none⟩, rest)
  | ['\\'] => (⟨[], some .cutShort⟩, [])
  | '\\' :: 'u' :: a :: b :: c :: d :: rest =>
      match fourDigits? a b c d with
      | some n =>
          let (text, left) := scanString rest
          (text.cons (.unit n), left)
      | none => (⟨[], some .malformed⟩, [])
  | '\\' :: 'u' :: rest => (⟨[], some (missingDigits rest)⟩, [])
  | '\\' :: e :: rest =>
      match unescape? e with
      | some c =>
          let (text, left) := scanString rest
          (text.cons (.char c), left)
      | none => (⟨[], some .malformed⟩, [])
  | c :: rest =>
      if c < ' ' then (⟨[], some .malformed⟩, [])
      else
        let (text, left) := scanString rest
        (text.cons (.char c), left)

/-! ## Putting together -/

def isLeading (n : Nat) : Bool := 0xD800 ≤ n && n ≤ 0xDBFF

def isTrailing (n : Nat) : Bool := 0xDC00 ≤ n && n ≤ 0xDFFF

/-- The characters of the pieces; units outside the first plane come in pairs. -/
def decodePieces (ending : Option JsonFault) : List Piece → Except JsonFault (List Char)
  | [] =>
      match ending with
      | some fault => .error fault
      | none => .ok []
  | .char c :: rest => (decodePieces ending rest).map (c :: ·)
  | .unit n :: rest =>
      if isTrailing n then .error .malformed
      else if isLeading n then
        match rest with
        | .unit k :: rest =>
            if isTrailing k then
              let c := Char.ofNat (0x10000 + (n - 0xD800) * 0x400 + (k - 0xDC00))
              (decodePieces ending rest).map (c :: ·)
            else .error .malformed
        | [] => .error (ending.getD .malformed)
        | .char _ :: _ => .error .malformed
      else (decodePieces ending rest).map (Char.ofNat n :: ·)

def StringText.decode (t : StringText) : Except JsonFault String :=
  (decodePieces t.ending t.pieces).map String.ofList

end Json

end ThingLink
