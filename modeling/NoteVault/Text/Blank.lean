import NoteVault.Text.Basic
import NoteVault.Text.Range

/-!
# Blank characters

The characters that count as white space are those to which the Unicode
character database gives the property `White_Space`, together with the four
separators U+001C to U+001F. They are few, so the ranges stand here in full.

`strip` removes blanks at both ends and nothing else; `words` are the pieces
between runs of blanks.
-/

namespace NoteVault.Text

/-- The blank characters. -/
def blankRanges : Ranges :=
  [(0x9, 0xD), (0x1C, 0x20), (0x85, 0x85), (0xA0, 0xA0), (0x1680, 0x1680), (0x2000, 0x200A),
    (0x2028, 0x2029), (0x202F, 0x202F), (0x205F, 0x205F), (0x3000, 0x3000)]

/-- Whether a character is white space. -/
def isBlank (c : Char) : Bool := inRanges blankRanges c.toNat

/-- Whether a text has no character but blanks. -/
def allBlank (s : Text) : Bool := s.all isBlank

/-- The text without the blanks at its beginning. -/
def stripStart (s : Text) : Text := s.dropWhile isBlank

/-- The text without the blanks at its end. -/
def stripEnd (s : Text) : Text := s.dropEndWhile isBlank

/-- The text without the blanks at either end. -/
def strip (s : Text) : Text := stripEnd (stripStart s)

/-- The pieces between runs of blanks. -/
def words (s : Text) : List Text := (splitWhere isBlank s).filter (!·.isEmpty)

end NoteVault.Text
