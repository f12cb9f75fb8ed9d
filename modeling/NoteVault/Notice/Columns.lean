import NoteVault.Text.Width

/-!
# Messages in columns

A message is laid out for a screen before it is shown: the characters that would ring the
bell or move the cursor are left out, and a tab leads to the next tab stop, one column on at
least. Lines are never broken.
-/

namespace NoteVault.Notice

/-- Whether a character rings the bell or moves the cursor within its line or between
pages. -/
def movesCursor (c : Char) : Bool :=
  c = '\x07' || c = '\x08' || c = '\x0b' || c = '\x0c' || c = '\r'

/-- The columns between two tab stops. -/
def tabStop : Nat := 8

/-- The parts of a line between its tabs, one after the other from some column on, and
blanks in the place of the tabs. -/
def alignParts (column : Nat) : List Text → Text
  | [] => []
  | [part] => part
  | part :: parts =>
    let reached := column + Text.width (part ++ [' '])
    let gap := (tabStop - reached % tabStop) % tabStop
    part ++ ' ' :: List.replicate gap ' ' ++ alignParts (reached + gap) parts

/-- A line with blanks in the place of its tabs. -/
def expandTabs (line : Text) : Text := alignParts 0 (Text.splitOn '\t' line)

/-- A message as it is laid out on a screen. -/
def layOut (message : Text) : Text :=
  let lines := Text.splitOn '\n' (message.filter (!movesCursor ·))
  Text.joinWith ['\n'] (lines.map expandTabs)

end NoteVault.Notice
