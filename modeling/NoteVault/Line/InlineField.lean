import NoteVault.Text.Blank
import NoteVault.Text.Scan

/-!
# Inline fields

A field stands in running text as `[key:: value]` or `(key:: value)`. The key is
not empty and holds none of `[ ] ( ) :`; the value reaches to the first closing
bracket of its own kind. Blanks around key and value do not count.

`setField` puts a value under a key, or takes the field away. A key that occurs
more than once is left alone, since it is not clear which one is meant.
-/

namespace NoteVault

/-- A field of running text. -/
structure InlineField where
  /-- The key. -/
  key : Text
  /-- The value. -/
  value : Text
  /-- The opening bracket. -/
  wrapping : Char
  deriving DecidableEq

namespace InlineField

/-- A character that can stand in a key. -/
def inKey (c : Char) : Bool := !(c = '[' || c = ']' || c = '(' || c = ')' || c = ':')

/-- The field behind an opening bracket, and what follows it. -/
def inside? (wrapping closing : Char) (s : Text) : Option (InlineField × Text) :=
  match s.takeWhile inKey, s.dropWhile inKey with
  | [], _ => none
  | key, ':' :: ':' :: rest =>
    match rest.dropWhile (· != closing) with
    | [] => none
    | _ :: after =>
      some (⟨Text.strip key, Text.strip (rest.takeWhile (· != closing)), wrapping⟩, after)
  | _, _ => none

/-- The field at the beginning of a text, and what follows it. -/
def recognise : Text → Option (InlineField × Text)
  | '[' :: rest => inside? '[' ']' rest
  | '(' :: rest => inside? '(' ')' rest
  | _ => none

/-- A field as it is written into a text, in square brackets. -/
def bracketed (key value : Text) : Text := '[' :: key ++ ':' :: ':' :: ' ' :: value ++ [']']

end InlineField

/-- The fields of a text, with their places. -/
def inlineFields (s : Text) : List (Found InlineField) := Text.scan InlineField.recognise s

/-- A blank that separates words on one line. -/
def isLineBlank (c : Char) : Bool := c = ' ' || c = '\t'

/-- Whether a text is at its end or goes on with a new line. -/
def endsLine : Text → Bool
  | [] => true
  | c :: _ => c = '\n' || c = '\r'

/-- A text from which something was cut between `front` and `back`. Its blanks behind
go with it, and at the end of a line also those in front. -/
def closeGap (front back : Text) : Text :=
  let back := back.dropWhile isLineBlank
  (if endsLine back then Text.dropEndWhile isLineBlank front else front) ++ back

/-- The text with a value under a key; without a value, or with an empty one, the field
is taken away. -/
def setField (s key : Text) (value : Option Text) : Text :=
  let value := value.getD []
  match (inlineFields s).filter fun f => f.value.key = key with
  | [] => if value.isEmpty then s else Text.stripEnd s ++ ' ' :: InlineField.bracketed key value
  | [f] =>
    if value.isEmpty then closeGap (s.take f.start) (s.drop f.stop)
    else s.take f.start ++ InlineField.bracketed key value ++ s.drop f.stop
  | _ => s

end NoteVault
