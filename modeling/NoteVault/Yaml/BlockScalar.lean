import NoteVault.Yaml.Fold

/-!
# Block scalars of YAML

A block scalar is a run of indented lines under a header. The header says whether
line ends are kept (`|`) or folded (`>`), what happens to those at the end, and, if it
cannot be seen from the first line with text, how far the lines are indented.

Blank lines need no indentation. A line that is indented less and not blank ends the
scalar.
-/

namespace NoteVault.Yaml

/-- What happens to the line ends at the end of a block scalar. -/
inductive Chomping where
  /-- One is kept. -/
  | clip
  /-- None is kept. -/
  | strip
  /-- All are kept. -/
  | keep

/-- The header of a block scalar. -/
structure BlockHeader where
  /-- What happens to the line ends at the end. -/
  chomping : Chomping := .clip
  /-- By how much the lines are indented more than the block around them. -/
  indentation : Option Nat := none

namespace BlockHeader

/-- A sign for the line ends at the end. -/
def chomping? : Char → Option Chomping
  | '+' => some .keep
  | '-' => some .strip
  | _ => none

/-- A digit for the indentation. -/
def indentation? (c : Char) : Option Nat := if c.isDigit then some (c.toNat - 48) else none

/-- The signs of a header, in either order, and the rest of its line. -/
def readSigns : Text → BlockHeader × Text
  | [] => ({}, [])
  | c :: rest =>
    match chomping? c, indentation? c with
    | some chomping, _ =>
      match rest with
      | [] => ({ chomping }, [])
      | d :: more =>
        match indentation? d with
        | some n => ({ chomping, indentation := some n }, more)
        | none => ({ chomping }, rest)
    | none, some n =>
      match rest with
      | [] => ({ indentation := some n }, [])
      | d :: more =>
        match chomping? d with
        | some chomping => ({ chomping, indentation := some n }, more)
        | none => ({ indentation := some n }, rest)
    | none, none => ({}, c :: rest)

/-- The header at the beginning of a text, after its first character, and what
follows its line end. -/
def read? (s : Text) : Option (BlockHeader × Text) :=
  let (header, rest) := readSigns s
  let rest := rest.dropWhile isSpace
  let rest := if rest.head? = some '#' then rest.dropWhile (!isBreak ·) else rest
  if header.indentation = some 0 then none
  else
    match rest with
    | [] => some (header, [])
    | c :: rest => if isBreak c then some (header, rest) else none

end BlockHeader

/-! ## Lines -/

/-- A line with the character that ends it; the last line may have none. -/
structure Line where
  /-- The line without its end. -/
  text : Text
  /-- What ends the line. -/
  lineEnd : Option Char

namespace Line

/-- The lines of a text. A text that ends with a line break has no line after it. -/
def ofText : Text → List Line
  | [] => []
  | c :: rest =>
    if isBreak c then ⟨[], some c⟩ :: ofText rest
    else
      match ofText rest with
      | [] => [⟨[c], none⟩]
      | line :: lines => { line with text := c :: line.text } :: lines

/-- The text that lines are the lines of. -/
def toText (lines : List Line) : Text :=
  lines.flatMap fun line => line.text ++ line.lineEnd.toList

/-- The line end as a scalar keeps it. -/
def keptEnd (line : Line) : Text := (line.lineEnd.map keptBreak).toList

/-- How far a line is indented. -/
def indentation (line : Line) : Nat := (line.text.takeWhile (· = ' ')).length

/-- Whether a line has nothing but indentation. -/
def isBlank (line : Line) : Bool := line.text.all (· = ' ') && line.lineEnd.isSome

/-- Whether a tab stands where less than `indent` blanks have been seen. -/
def hasTabWithin (indent : Nat) (line : Line) : Bool :=
  line.indentation < indent && (line.text.drop line.indentation).head? = some '\t'

end Line

/-! ## The body -/

/-- The indentation that the first lines of a body show: that of the first line with
text, or of a blank line before it that is indented more; at least `least`. `none` if
a tab stands in it. -/
def shownIndentation (least : Nat) : List Line → Option Nat
  | [] => some least
  | line :: lines =>
    let indent := max least line.indentation
    if (line.text.drop line.indentation).head? = some '\t' then none
    else if line.isBlank then shownIndentation indent lines
    else some indent

/-- How the lines of a body have been put together so far. -/
structure Joint where
  /-- The end of the last line with text. -/
  lineEnd : Text := []
  /-- The ends of the blank lines after it. -/
  blankEnds : Text := []
  /-- The last line with text began with a blank. -/
  wasSpaced : Bool := false

namespace Joint

/-- What stands between the last line with text and the next one. Line ends are folded
only between lines that do not begin with a blank. -/
def fold (folds isSpaced : Bool) (j : Joint) : Text :=
  if folds && j.lineEnd = ['\n'] && !j.wasSpaced && !isSpaced then
    if j.blankEnds.isEmpty then [' '] else j.blankEnds
  else j.lineEnd ++ j.blankEnds

/-- What is left of the line ends at the end. -/
def chomp (j : Joint) : Chomping → Text
  | .clip => j.lineEnd
  | .strip => []
  | .keep => j.lineEnd ++ j.blankEnds

end Joint

/-- The body of a block scalar whose lines are indented by `indent`, and the lines
after it. -/
def blockBody (folds : Bool) (chomping : Chomping) (indent : Nat) (joint : Joint) :
    List Line → Option (Text × List Line)
  | [] => some (joint.chomp chomping, [])
  | line :: lines =>
    let indentation := min indent line.indentation
    let body := line.text.drop indentation
    if line.hasTabWithin indent then none
    else if body.isEmpty && line.lineEnd.isSome then
      blockBody folds chomping indent
        { joint with blankEnds := joint.blankEnds ++ line.keptEnd } lines
    else if indentation < indent || body.isEmpty then
      some (joint.chomp chomping, line :: lines)
    else do
      let isSpaced := body.head?.any isSpace
      let (text, after) ← blockBody folds chomping indent
        { lineEnd := line.keptEnd, wasSpaced := isSpaced } lines
      return (joint.fold folds isSpaced ++ body ++ text, after)

/-- A block scalar after its first character, inside a block that is indented by
`around`, and what comes after it. -/
def readBlockScalar? (folds : Bool) (around : Int) (s : Text) : Option (Text × Text) := do
  let (header, rest) ← BlockHeader.read? s
  let lines := Line.ofText rest
  let indent ← match header.indentation with
    | some n => some (around.toNat + n)
    | none => shownIndentation (max 1 (around + 1).toNat) lines
  let (text, after) ← blockBody folds header.chomping indent {} lines
  return (text, Line.toText after)

end NoteVault.Yaml
