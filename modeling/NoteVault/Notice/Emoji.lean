import NoteVault.Notice.EmojiTable
import NoteVault.Text.Blank
import NoteVault.Text.Lower
import NoteVault.Text.Scan

/-!
# Emoji by name

In a message a name between colons stands for an emoji. Case does not count, and an ending
`-emoji` or `-text` asks for the picture or the sign. Between two colons there is no blank,
and a name that is not known stays as it is, with both its colons.

People and hands come in five skin tones, each with a name of its own: the tone stands
directly behind the first character and takes the place of a selector there.

## Main definitions

* `Emoji.named?` — the emoji with a name.
* `Emoji.replaceNames` — a message with emoji in the place of their names.
-/

namespace NoteVault.Emoji

/-- Names and what they stand for, one after the other. -/
def pairs : List Text → List (Text × Text)
  | name :: emoji :: rest => (name, emoji) :: pairs rest
  | _ => []

/-- The names in the lines of a table. -/
def entries (lines : List String) : List (Text × Text) :=
  lines.flatMap fun line => pairs (Text.splitOn ' ' line.toList)

/-- The endings of names that tell a skin tone, from light to dark. -/
def toneEndings : List Text :=
  ["_light_skin_tone", "_medium-light_skin_tone", "_medium_skin_tone",
    "_medium-dark_skin_tone", "_dark_skin_tone"].map String.toList

/-- The characters that give a skin tone, in the same order. -/
def toneMarks : List Char := (List.range 5).map fun n => Char.ofNat (0x1F3FB + n)

/-- The selector for the picture of a character. -/
def pictureSelector : Char := '\ufe0f'

/-- The selector for the sign of a character. -/
def signSelector : Char := '\ufe0e'

/-- An emoji in a skin tone. -/
def withTone (tone : Char) : Text → Text
  | [] => []
  | c :: rest => c :: tone :: (if rest.head? = some pictureSelector then rest.tail else rest)

/-- The emoji with a name that tells its skin tone. -/
def tonedNamed? (name : Text) : Option Text :=
  (toneEndings.zip toneMarks).findSome? fun (ending, tone) =>
    (Text.dropStart? ending.reverse name.reverse).bind fun start =>
      ((entries tonedLines).lookup start.reverse).map (withTone tone)

/-- The emoji with a name in lower case. -/
def named? (name : Text) : Option Text :=
  (((entries plainLines).lookup name).or ((entries tonedLines).lookup name)).or (tonedNamed? name)

/-- A name up to its closing colon: the name, the selector that its ending asks for, and
what follows. -/
def nameUntilColon? : Text → Option (Text × Text × Text)
  | [] => none
  | c :: rest =>
    match Text.dropStart? "-emoji:" (c :: rest), Text.dropStart? "-text:" (c :: rest) with
    | some after, _ => some ([], [pictureSelector], after)
    | none, some after => some ([], [signSelector], after)
    | none, none =>
      if c = ':' then some ([], [], rest)
      else if Text.isBlank c then none
      else (nameUntilColon? rest).map fun (name, more) => (c :: name, more)

/-- What a name between colons at the beginning of a text stands for, and what follows. -/
def recognise : Text → Option (Text × Text)
  | ':' :: rest => do
    let (name, selector, after) ← nameUntilColon? rest
    let replaced := match named? (Text.lower name) with
      | some emoji => emoji ++ selector
      | none => ':' :: rest.take (rest.length - after.length)
    return (replaced, after)
  | _ => none

/-- A message with emoji in the place of their names. -/
def replaceNames (message : Text) : Text := Text.replace recognise message

end NoteVault.Emoji
