import NoteVault.Text.Blank
import NoteVault.Text.Scan
import NoteVault.Text.Word

/-!
# Header texts in links

A link names a header by its words alone: runs of word characters, separated by
single blanks. Punctuation separates words as blanks do: it becomes blank first, and
then every run of blanks a single one.
-/

namespace NoteVault

/-- The text with a blank in the place of every character that is neither of a word
nor blank. -/
def blankSymbols (s : Text) : Text :=
  s.map fun c => if Text.isWord c || Text.isBlank c then c else ' '

/-- A single blank for the run of blanks at the beginning of a text, and what follows
the run. -/
def blankRun? : Text → Option (Text × Text)
  | [] => none
  | c :: rest => if Text.isBlank c then some ([' '], Text.stripStart rest) else none

/-- The text with a single blank in the place of every run of blanks. -/
def singleBlanks (s : Text) : Text := Text.replace blankRun? s

/-- The words of a header, separated by single blanks. -/
def normalizeHeader (header : Text) : Text :=
  Text.strip (singleBlanks (blankSymbols header))

end NoteVault
