import ThingLink.Yaml.Token

/-!
# YAML documents

A document is a tree of scalars, sequences and mappings.  `Node.ofText?` reads a
text that holds one document at most; an alias stands for the node that its anchor
names, so that the tree has no aliases in it.  Inside the node that it names, an alias
stands for an empty node of the same kind.
-/

namespace ThingLink.Yaml

inductive Node where
  | scalar (s : Scalar)
  | sequence (items : List Node)
  | mapping (entries : List (Node × Node))

def Node.absent : Node := .scalar (.plain "")

/-! ## Reading tokens -/

/-- Tokens that are left, and the nodes named so far, the last one first. -/
structure Remaining where
  tokens : List Token
  named : List (String × Node) := []

abbrev NodeReader := StateT Remaining Option

namespace NodeReader

def peek : NodeReader (Option Token) := do
  pure (← get).tokens.head?

def drop : NodeReader Unit :=
  modify fun r => { r with tokens := r.tokens.tail }

def expect (t : Token) : NodeReader Unit := do
  if (← peek) = some t then drop else failure

/-- Passes over the next token if it is `t`. -/
def drop? (t : Token) : NodeReader Bool := do
  if (← peek) = some t then
    drop
    pure true
  else pure false

def isAt (ts : List Token) : NodeReader Bool := do
  pure ((← peek).all ts.contains)

def takeAnchor : NodeReader (Option String) := do
  match ← peek with
  | some (.anchor name) => do
      drop
      pure (some name)
  | _ => pure none

/-- Gives a name to the node that begins at the next token, and takes the number of
names given before. -/
def begin (name : String) : NodeReader Nat := do
  let sequence := [Token.flowSequence, .blockSequence, .blockEntry].contains
  let outline : Node := if (← peek).any sequence then .sequence [] else .mapping []
  let earlier := (← get).named.length
  modify fun r => { r with named := (name, outline) :: r.named }
  pure earlier

/-- Gives a node to the name that came after `earlier` others. -/
def complete (earlier : Nat) (name : String) (n : Node) : NodeReader Unit :=
  modify fun r => { r with named := r.named.set (r.named.length - 1 - earlier) (name, n) }

def named (name : String) : NodeReader Node := do
  match (← get).named.lookup name with
  | some n => pure n
  | none => failure

mutual

/-- Takes a node.  In a block, structure shown by indentation is allowed, and
`hanging` items may be no further right than the key they belong to. -/
def node : (fuel : Nat) → (block hanging : Bool) → NodeReader Node
  | 0, _, _ => failure
  | fuel + 1, block, hanging => do
      match ← peek with
      | some (.alias name) => do
          drop
          named name
      | _ => do
          match ← takeAnchor with
          | none => content fuel block hanging false
          | some name => do
              let earlier ← begin name
              let n ← content fuel block hanging true
              complete earlier name n
              pure n

def content : (fuel : Nat) → (block hanging anchored : Bool) → NodeReader Node
  | 0, _, _, _ => failure
  | fuel + 1, block, hanging, anchored => do
      match ← peek with
      | some (.scalar s) => do
          drop
          pure (.scalar s)
      | some .flowSequence => do
          drop
          .sequence <$> flowItems fuel true
      | some .flowMapping => do
          drop
          .mapping <$> flowPairs fuel true
      | some .blockEntry =>
          if hanging then .sequence <$> hangingItems fuel
          else if anchored then pure .absent
          else failure
      | some .blockSequence =>
          if block then do
            drop
            .sequence <$> blockItems fuel
          else if anchored then pure .absent
          else failure
      | some .blockMapping =>
          if block then do
            drop
            .mapping <$> blockPairs fuel
          else if anchored then pure .absent
          else failure
      | _ => if anchored then pure .absent else failure

/-- Takes a node, or nothing in front of certain tokens. -/
def nodeUnless : (fuel : Nat) → (block hanging : Bool) → List Token → NodeReader Node
  | 0, _, _, _ => failure
  | fuel + 1, block, hanging, ends => do
      if ← isAt ends then pure .absent else node fuel block hanging

def blockItems : (fuel : Nat) → NodeReader (List Node)
  | 0 => failure
  | fuel + 1 => do
      if ← drop? .blockEntry then do
        let first ← nodeUnless fuel true false [.blockEntry, .blockEnd]
        let rest ← blockItems fuel
        pure (first :: rest)
      else do
        expect .blockEnd
        pure []

def hangingItems : (fuel : Nat) → NodeReader (List Node)
  | 0 => failure
  | fuel + 1 => do
      if ← drop? .blockEntry then do
        let first ← nodeUnless fuel true false [.blockEntry, .key, .value, .blockEnd]
        let rest ← hangingItems fuel
        pure (first :: rest)
      else pure []

def blockPairs : (fuel : Nat) → NodeReader (List (Node × Node))
  | 0 => failure
  | fuel + 1 => do
      if ← drop? .key then do
        let ends : List Token := [.key, .value, .blockEnd]
        let k ← nodeUnless fuel true true ends
        let v ← if ← drop? .value then nodeUnless fuel true true ends else pure .absent
        let rest ← blockPairs fuel
        pure ((k, v) :: rest)
      else do
        expect .blockEnd
        pure []

def flowItems : (fuel : Nat) → (first : Bool) → NodeReader (List Node)
  | 0, _ => failure
  | fuel + 1, first => do
      if ← drop? .flowSequenceEnd then pure []
      else do
        unless first do expect .flowEntry
        if ← drop? .flowSequenceEnd then pure []
        else do
          let item ←
            if ← drop? .key then do
              let k ← nodeUnless fuel false false [.value, .flowEntry, .flowSequenceEnd]
              let v ←
                if ← drop? .value then
                  nodeUnless fuel false false [.flowEntry, .flowSequenceEnd]
                else pure .absent
              pure (.mapping [(k, v)])
            else node fuel false false
          let rest ← flowItems fuel false
          pure (item :: rest)

def flowPairs : (fuel : Nat) → (first : Bool) → NodeReader (List (Node × Node))
  | 0, _ => failure
  | fuel + 1, first => do
      if ← drop? .flowMappingEnd then pure []
      else do
        unless first do expect .flowEntry
        if ← drop? .flowMappingEnd then pure []
        else do
          let pair ←
            if ← drop? .key then do
              let k ← nodeUnless fuel false false [.value, .flowEntry, .flowMappingEnd]
              let v ←
                if ← drop? .value then
                  nodeUnless fuel false false [.flowEntry, .flowMappingEnd]
                else pure .absent
              pure (k, v)
            else do
              let k ← node fuel false false
              pure (k, .absent)
          let rest ← flowPairs fuel false
          pure (pair :: rest)

end

/-- Takes a document: a node, or nothing behind an explicit start. -/
def document (fuel : Nat) : NodeReader Node := do
  if (← get).tokens.isEmpty then pure .absent
  else if ← drop? .documentStart then
    nodeUnless fuel true false [.documentStart, .documentEnd]
  else node fuel true false

end NodeReader

def Node.ofText? (text : String) : Option Node := do
  let tokens ← tokens? text
  let (n, left) ← (NodeReader.document (3 * tokens.length + 3)).run { tokens }
  if left.tokens.all (· = .documentEnd) then some n else none

end ThingLink.Yaml
