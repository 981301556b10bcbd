import PoolExit.Yaml.Scan

/-!
# From tokens to a document

A document is a tree of scalars, sequences and mappings.  A node may carry an anchor.  The name of the
anchor then stands for a number, which is how many names there have been before it, and an alias of
the name stands for that number.  Where several nodes have been given one number, the one that starts
last is meant.  Aliases stay in the tree as numbers, for a node may even contain an alias of itself.
-/

namespace PoolExit.Yaml

/-- A node of a document; a tag is written out in full. -/
inductive Node where
  | scalar (text : String) (style : Style) (tag : Option Tag)
  | sequence (items : List Node) (tag : Option Tag)
  | mapping (pairs : List (Node × Node)) (tag : Option Tag)
  /-- The node whose anchor has the given number. -/
  | alias (anchor : Nat)
deriving Inhabited

/-- A document: its root, if there is any, and the nodes that carry anchors, the latest first. -/
structure Document where
  root : Option Node
  anchored : List (Nat × Node)

/-- The node in the place of one that is missing. -/
def Node.missing : Node := .scalar "" .plain none

/-- Where the reading of a document stands. -/
structure Reading where
  tokens : List Token
  /-- The handles of tags and what they stand for. -/
  handles : List (String × Tag) := []
  /-- The names of anchors and the numbers that they stand for now. -/
  names : List (String × Nat) := []
  /-- The numbers that nodes with anchors have been given, in the order in which the nodes start, the
  latest first. -/
  begun : List Nat := []
  /-- The nodes with anchors that have been read, with their places in that order. -/
  carried : List (Nat × Node) := []

/-- A step in the reading of a document. -/
abbrev Read (α : Type) := StateT Reading (Except Fault) α

namespace Read

/-- A fault in the order of the tokens. -/
def fault {α : Type} (reason : String) : Read α := throw ⟨reason, 0, 0⟩

/-- The next token. -/
def peek : Read Token := do return (← get).tokens.head?.getD .streamEnd

/-- Goes past a token. -/
def skip : Read Unit := modify fun r => { r with tokens := r.tokens.drop 1 }

/-- What a tag of the given handle stands for. -/
def fullTag (handle : String) (rest : Tag) : Read Tag := do
  if handle.isEmpty then return rest
  match (← get).handles.lookup handle with
  | some start => return start ++ rest
  | none =>
    if handle == "!" then return Tag.mark ++ rest
    else if handle == "!!" then return Tag.ofString Tag.standardStart ++ rest
    else fault "found undefined tag handle"

/-- An anchor and a tag in front of a node, in either order. -/
structure Properties where
  anchor : Option String := none
  tag : Option Tag := none
  /-- Whether there is an anchor or a tag at all. -/
  given : Bool := false

/-- Reads the properties in front of a node: at most one anchor and one tag. -/
def properties : Read Properties := do
  let anchor (p : Properties) : Read Properties := do
    match ← peek with
    | .anchor name =>
      skip
      return { p with anchor := some name, given := true }
    | _ => return p
  let tag (p : Properties) : Read Properties := do
    match ← peek with
    | .tag handle rest =>
      skip
      return { p with tag := some (← fullTag handle rest), given := true }
    | _ => return p
  match ← peek with
  | .anchor _ => tag (← anchor {})
  | _ => anchor (← tag {})

/-- Gives an anchor its number: how many names of anchors there are before it.  The result is the
place of its node among the nodes with anchors. -/
def number (anchor : Option String) : Read (Option Nat) := do
  match anchor with
  | none => return none
  | some name =>
    let r ← get
    let n := r.names.length
    set { r with
      names := (name, n) :: r.names.filter fun (other, _) => other ≠ name
      begun := n :: r.begun }
    return some r.begun.length

/-- Notes the node that carries an anchor. -/
def carry (place : Option Nat) (node : Node) : Read Node := do
  match place with
  | none => return node
  | some k =>
    modify fun r => { r with carried := (k, node) :: r.carried }
    return node

/-- Where a node stands: in a block collection, in one whose sequences may be written without
indentation, or in a flow collection. -/
inductive Place where
  | block
  | blockOrIndentless
  | flow
deriving DecidableEq

/-- Whether a token ends the key or the value of a block mapping before it has begun. -/
def endsBlockPart : Token → Bool
  | .key | .value | .blockEnd => true
  | _ => false

mutual

/-- Reads a node. -/
def node : (fuel : Nat) → Place → Read Node
  | 0, _ => fault "nested too deep"
  | fuel + 1, place => do
    if let .alias name := ← peek then
      skip
      match (← get).names.lookup name with
      | some n => return .alias n
      | none => fault "unknown anchor"
    else
      let p ← properties
      let anchor ← number p.anchor
      let token ← peek
      let inner ← match token with
        | .scalar text style => do
          skip
          pure (Node.scalar text style p.tag)
        | .flowSequenceStart => do
          skip
          pure (Node.sequence (← flowItems fuel true) p.tag)
        | .flowMappingStart => do
          skip
          pure (Node.mapping (← flowPairs fuel true) p.tag)
        | _ =>
          if token == .blockEntry && place == .blockOrIndentless then do
            pure (Node.sequence (← indentlessItems fuel) p.tag)
          else if token == .blockSequenceStart && place != .flow then do
            skip
            pure (Node.sequence (← blockItems fuel) p.tag)
          else if token == .blockMappingStart && place != .flow then do
            skip
            pure (Node.mapping (← blockPairs fuel) p.tag)
          else if p.given then pure (Node.scalar "" .plain p.tag)
          else fault "did not find expected node content"
      carry anchor inner

/-- Reads the remaining items of a block sequence. -/
def blockItems : (fuel : Nat) → Read (List Node)
  | 0 => fault "nested too deep"
  | fuel + 1 => do
    match ← peek with
    | .blockEntry =>
      skip
      let token ← peek
      let item ← if token == .blockEntry || token == .blockEnd then pure Node.missing
        else node fuel .block
      return item :: (← blockItems fuel)
    | .blockEnd =>
      skip
      return []
    | _ => fault "did not find expected '-' indicator"

/-- Reads the remaining items of a sequence without indentation. -/
def indentlessItems : (fuel : Nat) → Read (List Node)
  | 0 => fault "nested too deep"
  | fuel + 1 => do
    match ← peek with
    | .blockEntry =>
      skip
      let token ← peek
      let item ← if token == .blockEntry || endsBlockPart token then pure Node.missing
        else node fuel .block
      return item :: (← indentlessItems fuel)
    | _ => return []

/-- Reads the remaining pairs of a block mapping. -/
def blockPairs : (fuel : Nat) → Read (List (Node × Node))
  | 0 => fault "nested too deep"
  | fuel + 1 => do
    match ← peek with
    | .key =>
      skip
      let key ← if endsBlockPart (← peek) then pure Node.missing
        else node fuel .blockOrIndentless
      let value ← match ← peek with
        | .value => do
          skip
          if endsBlockPart (← peek) then pure Node.missing else node fuel .blockOrIndentless
        | _ => pure Node.missing
      return (key, value) :: (← blockPairs fuel)
    | .blockEnd =>
      skip
      return []
    | _ => fault "did not find expected key"

/-- Reads the remaining items of a flow sequence; an item may be a pair, which stands for a mapping
of its own. -/
def flowItems : (fuel : Nat) → (isFirst : Bool) → Read (List Node)
  | 0, _ => fault "nested too deep"
  | fuel + 1, isFirst => do
    if (← peek) == .flowSequenceEnd then
      skip
      return []
    if !isFirst then
      if (← peek) == .flowEntry then skip else fault "did not find expected ',' or ']'"
    match ← peek with
    | .key =>
      skip
      let token ← peek
      let key ← if token == .value || token == .flowEntry || token == .flowSequenceEnd then do
          skip
          pure Node.missing
        else node fuel .flow
      let value ← match ← peek with
        | .value => do
          skip
          let token ← peek
          if token == .flowEntry || token == .flowSequenceEnd then pure Node.missing
          else node fuel .flow
        | _ => pure Node.missing
      return .mapping [(key, value)] none :: (← flowItems fuel false)
    | .flowSequenceEnd =>
      skip
      return []
    | _ =>
      let item ← node fuel .flow
      return item :: (← flowItems fuel false)

/-- Reads the remaining pairs of a flow mapping; a key may stand without a value. -/
def flowPairs : (fuel : Nat) → (isFirst : Bool) → Read (List (Node × Node))
  | 0, _ => fault "nested too deep"
  | fuel + 1, isFirst => do
    if (← peek) == .flowMappingEnd then
      skip
      return []
    if !isFirst then
      if (← peek) == .flowEntry then skip else fault "did not find expected ',' or '\x7d'"
    let value : Read Node := do
      match ← peek with
      | .value =>
        skip
        let token ← peek
        if token == .flowEntry || token == .flowMappingEnd then pure Node.missing
        else node fuel .flow
      | _ => pure Node.missing
    match ← peek with
    | .key =>
      skip
      let token ← peek
      let key ←
        if token == .value || token == .flowEntry || token == .flowMappingEnd then
          pure Node.missing
        else node fuel .flow
      let value ← value
      return (key, value) :: (← flowPairs fuel false)
    | .flowMappingEnd =>
      skip
      return []
    | _ =>
      let key ← node fuel .flow
      return (key, Node.missing) :: (← flowPairs fuel false)

end

/-- Reads the directives in front of a document; says whether there are any. -/
def directives : (fuel : Nat) → (version seen : Bool) → Read Bool
  | 0, _, seen => return seen
  | fuel + 1, version, seen => do
    match ← peek with
    | .versionDirective major minor =>
      if version then fault "found duplicate %YAML directive"
      if major != 1 || (minor != 1 && minor != 2) then fault "found incompatible YAML document"
      skip
      directives fuel true true
    | .tagDirective handle content =>
      if ((← get).handles.lookup handle).isSome then fault "found duplicate %TAG directive"
      skip
      modify fun r => { r with handles := (handle, content) :: r.handles }
      directives fuel version true
    | _ => return seen

/-- Goes past the marks at the end of a document. -/
def documentEnds : (fuel : Nat) → Read Unit
  | 0 => return ()
  | fuel + 1 => do
    if (← peek) == .documentEnd then
      skip
      documentEnds fuel

/-- Reads the root of the only document. -/
def root : Read (Option Node) := do
  let fuel := 2 * (← get).tokens.length + 2
  if (← peek) == .streamEnd then return none
  let withDirectives ← directives fuel false false
  let root ←
    if (← peek) == .documentStart then do
      skip
      match ← peek with
      | .documentStart | .documentEnd | .streamEnd | .versionDirective .. | .tagDirective .. =>
        pure Node.missing
      | _ => node fuel .block
    else if withDirectives then fault "did not find expected <document start>"
    else node fuel .block
  documentEnds fuel
  if (← peek) != .streamEnd then fault "more than one document"
  return some root

end Read

/-- The nodes with anchors and their numbers, in the order in which they start, the latest first. -/
def Reading.anchored (r : Reading) : List (Nat × Node) :=
  r.begun.zipIdx.filterMap fun (number, i) =>
    (r.carried.lookup (r.begun.length - 1 - i)).map fun node => (number, node)

/-- The only document of a text. -/
def document (text : String) : Except Fault Document := do
  let tokens ← tokens text
  let (root, reading) ← Read.root.run { tokens := tokens.toList }
  return ⟨root, reading.anchored⟩

end PoolExit.Yaml
