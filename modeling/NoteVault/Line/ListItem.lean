import NoteVault.Text.Blank
import NoteVault.Text.Digit
import NoteVault.Task.Node

/-!
# List items

A line is a list item if, behind blanks and quote marks, it has a list marker: a
`-`, `*` or `+`, or digits followed by `.` or `)`. Behind the marker may come a
checkbox, brackets around at most one character, and what then follows, without
the blanks around the checkbox, is the body of the item.

A line may end with one line feed, which is not part of the body; behind any other
line feed there can be nothing but blanks and the item itself.
-/

namespace NoteVault

/-- A line taken apart as a list item. -/
structure ListItem where
  /-- The list marker. -/
  symbol : Text
  /-- What stands in the checkbox, if there is one. -/
  status : Option Text
  /-- What follows marker and checkbox. -/
  body : Text
  deriving DecidableEq

/-- A character that can stand in front of a list marker. -/
def isQuoteOrBlank (c : Char) : Bool := Text.isBlank c || c = '>'

/-- The list marker at the beginning of a text, and what follows it. -/
def takeMarker? (s : Text) : Option (Text × Text) :=
  match s with
  | '-' :: rest => some (['-'], rest)
  | '*' :: rest => some (['*'], rest)
  | '+' :: rest => some (['+'], rest)
  | _ =>
    match s.takeWhile Text.isDigit, s.dropWhile Text.isDigit with
    | [], _ => none
    | digits, '.' :: rest => some (digits ++ ['.'], rest)
    | digits, ')' :: rest => some (digits ++ [')'], rest)
    | _, _ => none

/-- The optional checkbox at the beginning of a text, and what follows it. -/
def takeCheckbox (s : Text) : Option Text × Text :=
  match s with
  | '[' :: c :: ']' :: rest =>
    if c = '\n' then (none, s) else (some [c], rest)
  | '[' :: ']' :: rest => (some [], rest)
  | _ => (none, s)

/-- The body that a text consists of: one line, perhaps with its line feed. -/
def bodyOf? (s : Text) : Option Text :=
  match s.dropWhile (· != '\n') with
  | [] | ['\n'] => some (s.takeWhile (· != '\n'))
  | _ => none

/-- A line as a list item. -/
def ListItem.ofLine? (line : Text) : Option ListItem := do
  let (symbol, rest) ← takeMarker? (line.dropWhile isQuoteOrBlank)
  let (status, rest) := takeCheckbox (Text.stripStart rest)
  return ⟨symbol, status, ← bodyOf? (Text.stripStart rest)⟩

/-- The blanks at the beginning of a line. -/
def leadingBlanks (line : Text) : Text := line.takeWhile Text.isBlank

/-- The list item on a line of a note. An empty checkbox counts as a blank one. -/
def TaskNode.ofLine? (path : Text) (line : Int) (text : Text) : Option TaskNode :=
  (ListItem.ofLine? text).map fun item =>
    { path, line, lineCount := 1, text := item.body, symbol := item.symbol,
      status := item.status.map fun s => if s.isEmpty then [' '] else s,
      children := [], sectionLink := none, parent := none, blockId := none, tags := [] }

end NoteVault
