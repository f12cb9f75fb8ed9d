import NoteVault.Text.Basic
import NoteVault.Text.Blank

/-!
# Lines

A line ends at a line feed, and a carriage return directly before the line feed
belongs to the line end. A carriage return anywhere else is an ordinary
character. `splitLines` always yields at least one line, and the text after the
last line end is a line even when it is empty.

## Main definitions

* `splitLines` — the lines of a text.
* `joinLines` — lines one after the other, separated by one fixed line end.
* `lineEndOf` — the line end with which a changed text is put together again.
* `unifyLineEnds` — every line end, lone carriage returns included, as a line
  feed.
-/

namespace NoteVault.Text

/-- The lines of a text. -/
def splitLines : Text → List Text
  | [] => [[]]
  | '\n' :: rest => [] :: splitLines rest
  | '\r' :: '\n' :: rest => [] :: splitLines rest
  | c :: rest =>
    match splitLines rest with
    | [] => [[c]]
    | line :: lines => (c :: line) :: lines

/-- Lines separated by a line end. -/
def joinLines (lineEnd : Text) (lines : List Text) : Text := joinWith lineEnd lines

/-- Carriage return and line feed for a text in which a carriage return occurs
anywhere, otherwise a line feed. -/
def lineEndOf (s : Text) : Text := if s.contains '\r' then ['\r', '\n'] else ['\n']

/-- Every line end as one line feed: carriage return with line feed, and each of
them alone. -/
def unifyLineEnds : Text → Text
  | [] => []
  | '\r' :: '\n' :: rest => '\n' :: unifyLineEnds rest
  | '\r' :: rest => '\n' :: unifyLineEnds rest
  | c :: rest => c :: unifyLineEnds rest

/-- The lines without the blank ones at the end, except that the first line
always stays. -/
def dropBlankEnd : List Text → List Text
  | [] => []
  | line :: lines => line :: keepFrom lines
where
  /-- The lines up to the last one that is not blank. -/
  keepFrom : List Text → List Text
    | [] => []
    | line :: lines =>
      match keepFrom lines with
      | [] => if allBlank line then [] else [line]
      | kept => line :: kept

/-- The text without blank lines at its end; its line ends become line feeds. -/
def trimEndingLines (s : Text) : Text := joinLines ['\n'] (dropBlankEnd (splitLines s))

theorem splitLines_ne_nil (s : Text) : splitLines s ≠ [] := by
  fun_cases splitLines s <;> simp_all

end NoteVault.Text
