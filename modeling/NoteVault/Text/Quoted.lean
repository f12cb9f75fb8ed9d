import NoteVault.Text.Hex
import NoteVault.Text.Printable

/-!
# Quoted texts

How a text is shown inside a message: between single quotes, or double quotes
if it holds single ones only. The quote, the backslash and whatever is not
printable are written with a backslash, so the result is one printable line.
-/

namespace NoteVault.Text

/-- One character inside quotes of the kind `quote`. -/
def quotedChar (quote c : Char) : Text :=
  if c = quote || c = '\\' then ['\\', c]
  else if c = '\t' then "\\t"
  else if c = '\n' then "\\n"
  else if c = '\r' then "\\r"
  else if isPrintable c then [c]
  else if c.toNat < 0x100 then "\\x" ++ hex 2 c.toNat
  else if c.toNat < 0x10000 then "\\u" ++ hex 4 c.toNat
  else "\\U" ++ hex 8 c.toNat

/-- A text between quotes, on one printable line. -/
def quoted (s : Text) : Text :=
  let quote := if s.contains '\'' && !s.contains '"' then '"' else '\''
  quote :: s.flatMap (quotedChar quote) ++ [quote]

end NoteVault.Text
