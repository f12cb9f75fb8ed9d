import NoteVault.Yaml.Token

/-!
# Nodes of YAML

The tree that the tokens of a document describe. Parts that are left out are empty
plain scalars. A name given to a node holds from the end of that node on, and every
further mention of it stands for the same tree.

The grammar is read by functions that call one another, each for one kind of node.
Between two tokens at most four of them are entered, which bounds how deep the calls
can go by the number of tokens.

## Main definitions

* `Node` — the trees.
* `Node.ofTokens?` — the tree of the one document that some tokens describe.
-/

namespace NoteVault.Yaml

/-- A node of a document. -/
inductive Node where
  /-- A scalar; the text of a plain one can mean something else than a text. -/
  | scalar (isPlain : Bool) (text : Text)
  /-- A sequence. -/
  | sequence (items : List Node)
  /-- A mapping. -/
  | mapping (entries : List (Node × Node))

namespace Node

/-- A part that was left out. -/
def empty : Node := .scalar true []

/-- What is left to read, and the named nodes so far. A node whose name is known but
which has not ended yet cannot be mentioned. -/
structure Reading where
  /-- The tokens that are left. -/
  tokens : List Token
  /-- The named nodes. -/
  named : List (Text × Option Node) := []

/-- A reader of tokens; there is only one way to fail. -/
abbrev Reader := StateT Reading Option

namespace Reader

/-- The next token, which stays. -/
def peek : Reader (Option Token) := do return (← get).tokens.head?

/-- The next token is dropped. -/
def advance : Reader Unit := modify fun r => { r with tokens := r.tokens.tail }

/-- The next token must be the given one. -/
def expect (t : Token) : Reader Unit := do
  if (← peek) = some t then advance else failure

/-- A node gets a name, before it is read. -/
def openName (name : Text) : Reader Unit := do
  if ((← get).named.lookup name).isSome then failure
  modify fun r => { r with named := (name, none) :: r.named }

/-- The node with a name has been read. -/
def closeName (name : Text) (node : Node) : Reader Unit :=
  modify fun r => { r with
    named := r.named.map fun (n, v) => if n = name then (n, some node) else (n, v) }

end Reader

open Reader

mutual
/-- A node. Sequences and mappings in lines are read only if `inBlock`, and only if
`unindented` a sequence that is not indented more than the key before it. -/
def read (inBlock unindented : Bool) : (fuel : Nat) → Reader Node
  | 0 => failure
  | fuel + 1 => do
    match ← peek with
    | some (.alias name) =>
      advance
      match (← get).named.lookup name with
      | some (some node) => return node
      | _ => failure
    | some (.anchor name) =>
      advance
      openName name
      let node ← readContent inBlock unindented true fuel
      closeName name node
      return node
    | _ => readContent inBlock unindented false fuel

/-- A node without its name. With a name it can be left out. -/
def readContent (inBlock unindented isNamed : Bool) : (fuel : Nat) → Reader Node
  | 0 => failure
  | fuel + 1 => do
    match ← peek with
    | some (.scalar isPlain text) =>
      advance
      return .scalar isPlain text
    | some .flowSequenceStart =>
      advance
      return .sequence (← flowItems true fuel)
    | some .flowMappingStart =>
      advance
      return .mapping (← flowEntries true fuel)
    | some .blockEntry =>
      if unindented then return .sequence (← unindentedItems fuel)
      else if isNamed then return empty
      else failure
    | some .blockSequenceStart =>
      if inBlock then
        advance
        return .sequence (← blockItems fuel)
      else if isNamed then return empty
      else failure
    | some .blockMappingStart =>
      if inBlock then
        advance
        return .mapping (← blockEntries fuel)
      else if isNamed then return empty
      else failure
    | _ => if isNamed then return empty else failure

/-- A node, or an empty one before any of the tokens that can follow it. -/
def readBefore (ends : List Token) (inBlock unindented : Bool) : (fuel : Nat) → Reader Node
  | 0 => failure
  | fuel + 1 => do
    match ← peek with
    | none => failure
    | some t => if ends.contains t then return empty else read inBlock unindented fuel

/-- The items of a sequence in lines. -/
def blockItems : (fuel : Nat) → Reader (List Node)
  | 0 => failure
  | fuel + 1 => do
    match ← peek with
    | some .blockEntry =>
      advance
      let item ← readBefore [.blockEntry, .blockEnd] true false fuel
      return item :: (← blockItems fuel)
    | some .blockEnd =>
      advance
      return []
    | _ => failure

/-- The items of a sequence that is not indented more than the key before it. -/
def unindentedItems : (fuel : Nat) → Reader (List Node)
  | 0 => failure
  | fuel + 1 => do
    match ← peek with
    | some .blockEntry =>
      advance
      let item ← readBefore [.blockEntry, .key, .value, .blockEnd] true false fuel
      return item :: (← unindentedItems fuel)
    | _ => return []

/-- The entries of a mapping in lines. -/
def blockEntries : (fuel : Nat) → Reader (List (Node × Node))
  | 0 => failure
  | fuel + 1 => do
    match ← peek with
    | some .key =>
      advance
      let key ← readBefore [.key, .value, .blockEnd] true true fuel
      let value ←
        if (← peek) = some .value then do
          advance
          readBefore [.key, .value, .blockEnd] true true fuel
        else pure empty
      return (key, value) :: (← blockEntries fuel)
    | some .blockEnd =>
      advance
      return []
    | _ => failure

/-- The items of a sequence in brackets. An item can be a single entry of a mapping
without braces around it. -/
def flowItems (isFirst : Bool) : (fuel : Nat) → Reader (List Node)
  | 0 => failure
  | fuel + 1 => do
    if (← peek) = some .flowSequenceEnd then
      advance
      return []
    if !isFirst then expect .flowEntry
    match ← peek with
    | some .flowSequenceEnd =>
      advance
      return []
    | some .key =>
      advance
      let key ← singleKey fuel
      let value ←
        if (← peek) = some .value then do
          advance
          readBefore [.flowEntry, .flowSequenceEnd] false false fuel
        else pure empty
      return .mapping [(key, value)] :: (← flowItems false fuel)
    | _ =>
      let item ← read false false fuel
      return item :: (← flowItems false fuel)

/-- The key of a single entry. The token after a key that was left out is dropped with
it. -/
def singleKey : (fuel : Nat) → Reader Node
  | 0 => failure
  | fuel + 1 => do
    match ← peek with
    | some .value | some .flowEntry | some .flowSequenceEnd =>
      advance
      return empty
    | _ => read false false fuel

/-- The entries of a mapping in braces. -/
def flowEntries (isFirst : Bool) : (fuel : Nat) → Reader (List (Node × Node))
  | 0 => failure
  | fuel + 1 => do
    if (← peek) = some .flowMappingEnd then
      advance
      return []
    if !isFirst then expect .flowEntry
    match ← peek with
    | some .flowMappingEnd =>
      advance
      return []
    | some .key =>
      advance
      let key ← readBefore [.value, .flowEntry, .flowMappingEnd] false false fuel
      let value ←
        if (← peek) = some .value then do
          advance
          readBefore [.flowEntry, .flowMappingEnd] false false fuel
        else pure empty
      return (key, value) :: (← flowEntries false fuel)
    | _ =>
      let key ← read false false fuel
      return (key, empty) :: (← flowEntries false fuel)
end

/-- The tree of a document without the marks around it. -/
def readDocument (fuel : Nat) : Reader (Option Node) := do
  match ← peek with
  | none => return none
  | some .documentStart =>
    advance
    match ← peek with
    | none | some .documentStart | some .documentEnd => return some empty
    | _ => return some (← read true false fuel)
  | _ => return some (← read true false fuel)

/-- The tree of the document that the tokens describe; there is none if there are no
tokens. A second document is refused. -/
def ofTokens? (tokens : List Token) : Option (Option Node) := do
  let (node, left) ← (readDocument (4 * tokens.length + 4)).run { tokens }
  if left.tokens.all (· = .documentEnd) then some node else none

end Node
end NoteVault.Yaml
