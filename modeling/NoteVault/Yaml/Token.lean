import NoteVault.Yaml.BlockScalar
import NoteVault.Yaml.FlowScalar

/-!
# Tokens of YAML

The structure of a document is partly written with indentation. Its tokens make all of
it explicit: a block begins and ends with a token, and a token stands in front of
every key.

Whether something is a key shows only at the colon behind it. So the scanner remembers
where a key may have begun, one place for each flow collection that is open and one
for the block around them, and puts the key token there when the colon comes. Such a
*simple key* has to end on the line it began on, within 1024 characters.

## Main definitions

* `Token` — the tokens.
* `Scanner` — what has been read, and what it means for what comes next.
* `Token.scan?` — the tokens of a text. Tags and directives are refused.
-/

namespace NoteVault.Yaml

/-- A token. -/
inductive Token where
  /-- The mark at the beginning of a document. -/
  | documentStart
  /-- The mark at the end of a document. -/
  | documentEnd
  /-- A sequence in lines begins. -/
  | blockSequenceStart
  /-- A mapping in lines begins. -/
  | blockMappingStart
  /-- A sequence or mapping in lines ends. -/
  | blockEnd
  /-- An opening bracket. -/
  | flowSequenceStart
  /-- A closing bracket. -/
  | flowSequenceEnd
  /-- An opening brace. -/
  | flowMappingStart
  /-- A closing brace. -/
  | flowMappingEnd
  /-- The dash before an item. -/
  | blockEntry
  /-- The comma between items. -/
  | flowEntry
  /-- A key follows. -/
  | key
  /-- A value follows. -/
  | value
  /-- The next node has a name. -/
  | anchor (name : Text)
  /-- The node with that name once more. -/
  | alias (name : Text)
  /-- A scalar; the text of a plain one can mean something else than a text. -/
  | scalar (isPlain : Bool) (text : Text)
  deriving DecidableEq

/-- A place where a simple key may have begun. -/
structure KeyPlace where
  /-- The number of tokens before it. -/
  tokenCount : Nat
  /-- Its line. -/
  line : Nat
  /-- Its column. -/
  column : Nat
  /-- Its distance from the beginning of the text. -/
  offset : Nat
  /-- A mapping cannot go on with anything but a key there. -/
  isRequired : Bool

/-- What has been read of a text, and what it means for what comes next. -/
structure Scanner where
  /-- What is left to read. -/
  rest : Text
  /-- The line. -/
  line : Nat := 0
  /-- The column. -/
  column : Nat := 0
  /-- The distance from the beginning of the text. -/
  offset : Nat := 0
  /-- The tokens, the last one first. -/
  tokens : List Token := []
  /-- The column of the innermost block; before any block it is `-1`. -/
  indent : Int := -1
  /-- The columns of the blocks around it. -/
  outerIndents : List Int := []
  /-- A simple key may begin here. -/
  allowsKey : Bool := true
  /-- Where a simple key may have begun in the innermost flow collection. -/
  keyPlace : Option KeyPlace := none
  /-- The same for the flow collections around it and the block around all of them. -/
  outerKeyPlaces : List (Option KeyPlace) := []

namespace Scanner

/-- Whether a flow collection is open. -/
def isInFlow (s : Scanner) : Bool := !s.outerKeyPlaces.isEmpty

/-- The scanner after the text up to `rest` has been read. -/
def moveTo (s : Scanner) (rest : Text) : Scanner :=
  let read := s.rest.take (s.rest.length - rest.length)
  let lines := Text.splitWhere isBreak read
  let lastWidth := (lines.getLastD []).length
  { s with
    rest
    line := s.line + (lines.length - 1)
    column := if lines.length = 1 then s.column + lastWidth else lastWidth
    offset := s.offset + read.length }

/-- The scanner after the next character has been read. -/
def skip (s : Scanner) : Scanner := s.moveTo (s.rest.drop 1)

/-- The scanner with one more token. -/
def emit (t : Token) (s : Scanner) : Scanner := { s with tokens := t :: s.tokens }

/-- The scanner with a token put after the first `count` ones. -/
def emitAfter (count : Nat) (t : Token) (s : Scanner) : Scanner :=
  let later := s.tokens.length - count
  { s with tokens := s.tokens.take later ++ t :: s.tokens.drop later }

/-! ## Blocks -/

/-- A block begins if the column is beyond that of the block around it. Its token comes
after the first `count` ones. -/
def openBlock (column count : Nat) (t : Token) (s : Scanner) : Scanner :=
  if !s.isInFlow ∧ s.indent < column then
    { s.emitAfter count t with indent := column, outerIndents := s.indent :: s.outerIndents }
  else s

/-- The blocks end that are indented more than `column`, given the columns around the
innermost one. -/
def closeBlocksOf (column : Int) : (outer : List Int) → Scanner → Scanner
  | [], s => s
  | indent :: outer, s =>
    if column < s.indent then
      closeBlocksOf column outer { s.emit .blockEnd with indent, outerIndents := outer }
    else s

/-- The blocks end that are indented more than `column`. -/
def closeBlocks (column : Int) (s : Scanner) : Scanner :=
  if s.isInFlow then s else closeBlocksOf column s.outerIndents s

/-! ## Simple keys -/

/-- No simple key began before this place; `none` if there had to be one. -/
def dropKey (s : Scanner) : Option Scanner :=
  if s.keyPlace.any (·.isRequired) then none else some { s with keyPlace := none }

/-- A simple key may begin here, where one is allowed. -/
def markKey (s : Scanner) : Option Scanner :=
  if s.allowsKey then do
    let isRequired := !s.isInFlow ∧ s.indent = s.column
    let s ← s.dropKey
    return { s with keyPlace := some ⟨s.tokens.length, s.line, s.column, s.offset, isRequired⟩ }
  else some s

/-- Whether a simple key that began at a place can end here. -/
def canEndKey (s : Scanner) (place : KeyPlace) : Bool :=
  place.line = s.line && s.offset ≤ place.offset + 1024

/-! ## Blanks and comments -/

/-- What follows blanks, comments and line ends, whether a line has ended in them, and
whether a simple key may begin there. Where one may begin in a line, tabs are no
blanks. -/
def skipGap (inFlow allowsKey : Bool) (isLineStart inComment : Bool) : Text → Text × Bool
  | [] => ([], allowsKey)
  | c :: rest =>
    if isBreak c then skipGap inFlow (allowsKey || !inFlow) true false rest
    else if inComment then skipGap inFlow allowsKey false true rest
    else if c = ' ' || c = '\t' && (inFlow || !allowsKey)
        || c = Char.ofNat 0xFEFF && isLineStart then
      skipGap inFlow allowsKey false false rest
    else if c = '#' then skipGap inFlow allowsKey false true rest
    else (c :: rest, allowsKey)

/-- The scanner at the next character that begins a token. -/
def toNextToken (s : Scanner) : Scanner :=
  let (rest, allowsKey) := skipGap s.isInFlow s.allowsKey (s.column = 0) false s.rest
  { s.moveTo rest with allowsKey }

/-! ## The tokens one by one -/

/-- The characters that no plain scalar begins with, apart from those that need a gap
behind them to mean something. -/
def indicators : Text := ",[]\x7b\x7d#&*!|>'\"%@\x60"

/-- The characters that may directly follow a name. -/
def nameEnds : Text := "?:,]\x7d%@\x60"

/-- Whether a plain scalar can begin with such a text. -/
def startsPlain (inFlow : Bool) : Text → Bool
  | [] => false
  | c :: rest =>
    if c = '-' then !startsGap rest
    else if c = '?' || c = ':' then !inFlow && !startsGap rest
    else !isGap c && !indicators.contains c

/-- A scalar that can be a simple key and ends before `rest`. -/
def scalar (isPlain : Bool) (text rest : Text) (s : Scanner) : Option Scanner := do
  let s ← s.markKey
  return { (s.moveTo rest).emit (.scalar isPlain text) with allowsKey := false }

/-- A flow collection begins. -/
def openFlow (t : Token) (s : Scanner) : Option Scanner := do
  let s ← s.markKey
  return { s.skip.emit t with
    allowsKey := true, keyPlace := none, outerKeyPlaces := s.keyPlace :: s.outerKeyPlaces }

/-- A flow collection ends. -/
def closeFlow (t : Token) (s : Scanner) : Option Scanner := do
  let s ← s.dropKey
  let s := { s.skip.emit t with allowsKey := false }
  match s.outerKeyPlaces with
  | [] => return s
  | place :: outer => return { s with keyPlace := place, outerKeyPlaces := outer }

/-- A dash before an item, or a question mark before a key. -/
def entry (block item : Token) (s : Scanner) : Option Scanner := do
  if !s.isInFlow && !s.allowsKey then none
  let s ← (s.openBlock s.column s.tokens.length block).dropKey
  return s.skip.emit item

/-- A colon before a value. If a simple key has just ended, its token goes where it
began. -/
def value (s : Scanner) : Option Scanner :=
  match s.keyPlace with
  | some place =>
    if s.canEndKey place then
      let s := s.emitAfter place.tokenCount .key
      let s := s.openBlock place.column place.tokenCount .blockMappingStart
      some { s.skip.emit .value with keyPlace := none, allowsKey := false }
    else if place.isRequired then none
    else withoutKey { s with keyPlace := none }
  | none => withoutKey s
where
  /-- A colon with no simple key before it. -/
  withoutKey (s : Scanner) : Option Scanner := do
    if !s.isInFlow && !s.allowsKey then none
    let s := s.openBlock s.column s.tokens.length .blockMappingStart
    return { s.skip.emit .value with allowsKey := !s.isInFlow }

/-- Whether a character can stand in the name of a node. -/
def isNameChar (c : Char) : Bool := c.isAlphanum || c = '_' || c = '-'

/-- The name of a node, after the character before it. -/
def name (make : Text → Token) (s : Scanner) : Option Scanner := do
  let s ← s.markKey
  let text := s.rest.drop 1
  let name := text.takeWhile isNameChar
  let rest := text.dropWhile isNameChar
  if name.isEmpty || !(startsGap rest || rest.head?.any (nameEnds.contains ·)) then none
  return { (s.moveTo rest).emit (make name) with allowsKey := false }

/-- A scalar in indented lines. -/
def block (folds : Bool) (s : Scanner) : Option Scanner := do
  let s ← s.dropKey
  let (text, rest) ← readBlockScalar? folds s.indent (s.rest.drop 1)
  return { (s.moveTo rest).emit (.scalar false text) with allowsKey := true }

/-- A plain scalar. -/
def plain (s : Scanner) : Option Scanner := do
  let run ← plainFrom s.isInFlow (s.indent + 1).toNat none s.column s.rest
  let s ← s.scalar true run.text run.rest
  return { s with allowsKey := run.endsLine }

/-- The scanner after the next token. The character at hand begins it, and `rest` is
what follows that character. -/
def next (c : Char) (rest : Text) (s : Scanner) : Option Scanner :=
  if s.column = 0 && c = '%' then none
  else if s.column = 0 && startsWithMark s.rest then do
    let s ← (s.closeBlocks (-1)).dropKey
    return { (s.moveTo (s.rest.drop 3)).emit (if c = '-' then .documentStart else .documentEnd)
      with allowsKey := false }
  else
    match c with
    | '[' => s.openFlow .flowSequenceStart
    | '{' => s.openFlow .flowMappingStart
    | ']' => s.closeFlow .flowSequenceEnd
    | '}' => s.closeFlow .flowMappingEnd
    | ',' => do
      let s ← s.dropKey
      return { s.skip.emit .flowEntry with allowsKey := true }
    | '*' => s.name .alias
    | '&' => s.name .anchor
    | '\'' => do
      let (text, after) ← singleQuotedFrom {} (s.column + 1) rest
      s.scalar false text after
    | '"' => do
      let (text, after) ← doubleQuotedFrom {} (s.column + 1) 0 rest
      s.scalar false text after
    | _ =>
      if c = '-' && startsGap rest then do
        let s ← s.entry .blockSequenceStart .blockEntry
        return { s with allowsKey := true }
      else if c = '?' && (s.isInFlow || startsGap rest) then do
        let s ← s.entry .blockMappingStart .key
        return { s with allowsKey := !s.isInFlow }
      else if c = ':' && (s.isInFlow || startsGap rest) then s.value
      else if c = '|' && !s.isInFlow then s.block false
      else if c = '>' && !s.isInFlow then s.block true
      else if startsPlain s.isInFlow s.rest then s.plain
      else none

/-- The scanner at the end of the text. Every token takes at least one character, so
`fuel` need not exceed the length of the text. -/
def run : (fuel : Nat) → Scanner → Option Scanner
  | 0, _ => none
  | fuel + 1, s =>
    let s := s.toNextToken
    match s.rest with
    | [] => (s.closeBlocks (-1)).dropKey
    | c :: rest =>
      match (s.closeBlocks s.column).next c rest with
      | none => none
      | some s => run fuel s

end Scanner

/-- The tokens of a text, if it holds nothing but what a document may hold. -/
def Token.scan? (s : Text) : Option (List Token) :=
  if s.all isAllowed then
    (Scanner.run (s.length + 1) { rest := s }).map (·.tokens.reverse)
  else none

end NoteVault.Yaml
