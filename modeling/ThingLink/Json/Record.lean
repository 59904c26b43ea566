import ThingLink.Json.Value
import ThingLink.Text.Shown

/-!
# Records in JSON

A `Shape` says how a record is read: field after field into a draft, and the
record out of the draft.  A record is written as an object with the names of its
fields as keys, in any order and among other keys, or as an array of its fields in
order.  The readers of single values say what they found when they found something
else.
-/

namespace ThingLink.Json

open Text (decimal shown floatText)

/-- How many containers may be inside each other in a document. -/
def maxNesting : Nat := 127

/-! ## Single values -/

def describeValue : JsonValue → String
  | .null => "null"
  | .bool b => if b then "boolean `true`" else "boolean `false`"
  | .natural n => "integer `" ++ decimal n ++ "`"
  | .negative n => "integer `-" ++ decimal n ++ "`"
  | .float x => "floating point `" ++ floatText floatStyle x ++ "`"
  | .text s => "string " ++ shown s
  | .array _ => "sequence"
  | .object _ => "map"

def Tree.describe : Tree → Except JsonFault String
  | .array _ => .ok "sequence"
  | .object _ => .ok "map"
  | t => (t.value 0).map describeValue

def Tree.wrongKind {α : Type} (t : Tree) (expected : String) : Except JsonFault α := do
  let found ← t.describe
  .error (.unfit ("invalid type: " ++ found ++ ", expected " ++ expected))

def Tree.asText : Tree → Except JsonFault String
  | .text t => t.decode
  | t => t.wrongKind "a string"

def Tree.asNatural (bound : Nat) (name : String) (t : Tree) : Except JsonFault Nat :=
  let outOfRange (v : JsonValue) : Except JsonFault Nat :=
    .error (.unfit ("invalid value: " ++ describeValue v ++ ", expected " ++ name))
  match t with
  | .number n ending => do
      raise ending
      match ← n.value with
      | .natural k => if k < bound then .ok k else outOfRange (.natural k)
      | .negative k => outOfRange (.negative k)
      | _ => t.wrongKind name
  | _ => t.wrongKind name

def Items.read {α : Type} (item : Tree → Except JsonFault α) : Items → Except JsonFault (List α)
  | .finish ending => (raise ending).map fun _ => []
  | .item value rest => do
      let first ← item value
      let others ← rest.read item
      pure (first :: others)

/-- A sequence with at most `room` containers inside each other, of which it is
one. -/
def Tree.asSequence {α : Type} (room : Nat) (item : (room : Nat) → Tree → Except JsonFault α) :
    Tree → Except JsonFault (List α)
  | .array items =>
      match room with
      | 0 => .error .malformed
      | room + 1 => items.read (item room)
  | t => t.wrongKind "a sequence"

/-! ## Records -/

structure Field (σ : Type) where
  name : String
  isSet : σ → Bool
  read : (room : Nat) → Tree → σ → Except JsonFault σ

/-- How records `α` are read by way of drafts `σ`. -/
structure Shape (σ α : Type) where
  name : String
  fields : List (Field σ)
  empty : σ
  finish : σ → Except JsonFault α

def required {α : Type} (name : String) : Option α → Except JsonFault α
  | some a => .ok a
  | none => .error (.unfit ("missing field `" ++ name ++ "`"))

namespace Shape

variable {σ α : Type}

def readEntries (s : Shape σ α) (room : Nat) (draft : σ) : Entries → Except JsonFault σ
  | .finish ending => (raise ending).map fun _ => draft
  | .entry key value rest => do
      let name ← key.key
      match s.fields.find? (·.name = name) with
      | none =>
          value.skip
          readEntries s room draft rest
      | some field =>
          if field.isSet draft then
            .error (.unfit ("duplicate field `" ++ name ++ "`"))
          else
            let draft ← field.read room value draft
            readEntries s room draft rest

def tooShort (s : Shape σ α) (count : Nat) : JsonFault :=
  let wanted := s.fields.length
  .unfit ("invalid length " ++ decimal count ++ ", expected struct " ++ s.name ++ " with "
    ++ decimal wanted ++ (if wanted = 1 then " element" else " elements"))

def readItems (s : Shape σ α) (room : Nat) (draft : σ) (left : List (Field σ)) :
    Items → Except JsonFault σ
  | .finish ending => do
      raise ending
      match left with
      | [] => .ok draft
      | _ :: _ => .error (s.tooShort (s.fields.length - left.length))
  | .item value rest =>
      match left with
      | [] => .error .malformed
      | field :: left => do
          let draft ← field.read room value draft
          readItems s room draft left rest

/-- Reads a record with at most `room` containers inside each other, of which it
is one. -/
def read (s : Shape σ α) (room : Nat) (t : Tree) : Except JsonFault α :=
  match t, room with
  | .array _, 0 => .error .malformed
  | .object _, 0 => .error .malformed
  | .array items, room + 1 => do s.finish (← s.readItems room s.empty s.fields items)
  | .object entries, room + 1 => do s.finish (← s.readEntries room s.empty entries)
  | t, _ => t.wrongKind ("struct " ++ s.name)

end Shape

/-! ## Documents -/

def readDocument {α : Type} (read : (room : Nat) → Tree → Except JsonFault α) (text : String) :
    Except JsonFault α := do
  let (tree, rest) := Tree.ofText text.toList
  let value ← read maxNesting tree
  if (skipSpace rest).isEmpty then .ok value else .error .malformed

end ThingLink.Json
