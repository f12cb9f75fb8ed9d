import NoteVault.Calendar.Date
import NoteVault.Line.InlineField
import NoteVault.Text.Lines

/-!
# Completion dates

A task that is completed carries the date in an inline field at the end of its last
line. When it is opened again the field is taken away, and with it the blank lines
that end the text.
-/

namespace NoteVault

/-- A date as a field holds it; the year is not filled up with zeros. -/
def completionText (d : Date) : Text :=
  Text.ofNat d.year ++ '-' :: Text.padNat 2 d.month ++ '-' :: Text.padNat 2 d.day

/-- Lines of which the last is changed. -/
def changeLast (f : Text → Text) : List Text → List Text
  | [] => []
  | [line] => [f line]
  | line :: lines => line :: changeLast f lines

/-- The text of a task with its completion date, or without one. -/
def setCompletion (s key : Text) (today : Option Date) : Text :=
  match today with
  | none => Text.trimEndingLines (setField s key none)
  | some d =>
    Text.joinLines ['\n']
      (changeLast (fun line => setField line key (some (completionText d))) (Text.splitLines s))

end NoteVault
