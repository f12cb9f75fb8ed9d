import NoteVault.Text.Hex
import NoteVault.Value.Basic
import NoteVault.Text.Numeral

/-!
# JSON

The values of the JSON format, where numbers are integers of any size or binary64
numbers; not-a-number and the infinities have names of their own. `Json.text` writes a
value over several lines, `Json.ofValue` shows a value of a note in it.

Written text is ASCII: every other character, and every one that is not printable, is
written by the numbers of its UTF-16 units.
-/

namespace NoteVault

/-- A value of the JSON format. -/
inductive Json where
  /-- The missing value. -/
  | null
  /-- A truth value. -/
  | bool (b : Bool)
  /-- A number. -/
  | number (x : Number)
  /-- A text. -/
  | string (s : Text)
  /-- An array. -/
  | array (items : List Json)
  /-- An object. -/
  | object (entries : List (Text × Json))

namespace Json

/-- The entries of an object with a value under a name. A name that is already there
keeps its place and takes the new value; a new one comes last. -/
def put (name : Text) (value : Json) : List (Text × Json) → List (Text × Json)
  | [] => [(name, value)]
  | (n, v) :: rest => if n = name then (n, value) :: rest else (n, v) :: put name value rest

/-- The object that names and values describe, taken one after the other. -/
def ofFields (fields : List (Text × Json)) : Json :=
  .object (fields.foldl (fun entries (name, value) => put name value entries) [])

/-! ## Writing -/

/-- The number of a UTF-16 unit as it is written. -/
def unitText (n : Nat) : Text := "\\u" ++ Text.hex 4 n

/-- One character of a text. -/
def charText (c : Char) : Text :=
  let n := c.toNat
  if c = '"' || c = '\\' then ['\\', c]
  else if c = '\n' then "\\n"
  else if c = '\r' then "\\r"
  else if c = '\t' then "\\t"
  else if n = 0x0C then "\\f"
  else if n = 0x08 then "\\b"
  else if 0x20 ≤ n && n ≤ 0x7E then [c]
  else if n < 0x10000 then unitText n
  else unitText (0xD800 + (n - 0x10000) / 0x400) ++ unitText (0xDC00 + (n - 0x10000) % 0x400)

/-- A text in quotes. -/
def stringText (s : Text) : Text := '"' :: s.flatMap charText ++ ['"']

/-- A number. -/
def numberText : Number → Text
  | .float .nan => "NaN"
  | .float (.infinite negative) => if negative then "-Infinity" else "Infinity"
  | x => x.text

/-- A line end and the indentation of a line at some depth. -/
def newLine (depth : Nat) : Text := '\n' :: List.replicate (2 * depth) ' '

/-- Parts in brackets, each on a line of its own. -/
def bracketed (opening closing : Char) (depth : Nat) (parts : List Text) : Text :=
  if parts.isEmpty then [opening, closing]
  else
    opening :: newLine (depth + 1) ++ Text.joinWith (',' :: newLine (depth + 1)) parts
      ++ newLine depth ++ [closing]

mutual
/-- A value at some depth, two blanks of indentation for each. -/
def textAt (depth : Nat) : Json → Text
  | .null => "null"
  | .bool b => if b then "true" else "false"
  | .number x => numberText x
  | .string s => stringText s
  | .array items => bracketed '[' ']' depth (itemTexts (depth + 1) items)
  | .object entries => bracketed '{' '}' depth (entryTexts (depth + 1) entries)

/-- The items of an array. -/
def itemTexts (depth : Nat) : List Json → List Text
  | [] => []
  | item :: items => textAt depth item :: itemTexts depth items

/-- The entries of an object. -/
def entryTexts (depth : Nat) : List (Text × Json) → List Text
  | [] => []
  | (name, value) :: entries =>
    (stringText name ++ ':' :: ' ' :: textAt depth value) :: entryTexts depth entries
end

mutual
/-- Whether a value can be written: its integers do not have too many digits. -/
def isWritable : Json → Bool
  | .number (.int n) => NoteVault.isWritable n
  | .array items => areWritable items
  | .object entries => areEntriesWritable entries
  | _ => true

/-- Whether all of some values can be written. -/
def areWritable : List Json → Bool
  | [] => true
  | item :: items => isWritable item && areWritable items

/-- Whether the values of some entries can be written. -/
def areEntriesWritable : List (Text × Json) → Bool
  | [] => true
  | (_, value) :: entries => isWritable value && areEntriesWritable entries
end

/-- A value over several lines. -/
def text (j : Json) : Text := textAt 0 j

/-! ## Values of notes -/

mutual
/-- The value of a note that a JSON value is. -/
def toValue : Json → Value
  | .null => .null
  | .bool b => .bool b
  | .number x => .number x
  | .string s => .string s
  | .array items => .list (toValues items)
  | .object entries => .object (toEntries entries)

/-- The values of the items of an array. -/
def toValues : List Json → List Value
  | [] => []
  | item :: items => toValue item :: toValues items

/-- The entries of an object. -/
def toEntries : List (Text × Json) → List (Key × Value)
  | [] => []
  | (name, value) :: entries => (.string name, toValue value) :: toEntries entries
end

mutual
/-- A value of a note in JSON. Arrays and objects stay what they are; what JSON lacks is
written by `write`. -/
def ofValue (write : Value → Text) : Value → Json
  | .null => .null
  | .bool b => .bool b
  | .number x => .number x
  | .string s => .string s
  | .array _ items => .array (ofValues write items)
  | .object entries => .object (ofEntries write entries)
  | v => .string (write v)

/-- The items of an array in JSON. -/
def ofValues (write : Value → Text) : List Value → List Json
  | [] => []
  | v :: vs => ofValue write v :: ofValues write vs

/-- The entries of an object in JSON. -/
def ofEntries (write : Value → Text) : List (Key × Value) → List (Text × Json)
  | [] => []
  | (k, v) :: entries => (k.text, ofValue write v) :: ofEntries write entries
end

end Json
end NoteVault
