import NoteVault.Json.Basic
import NoteVault.Text.Numeral

/-!
# Reading JSON

`Json.ofText` reads a text that is one JSON value with blanks around it. Of entries
with the same name the last one counts, in the place of the first. An escape can name
half of a surrogate pair only together with the other half.

The functions return what they read and what follows it. How deep values can be nested
is bounded by the length of the text.
-/

namespace NoteVault

/-- Why a text is not a value. -/
inductive JsonError where
  /-- It is not JSON. -/
  | malformed
  /-- An integer has too many digits. -/
  | longNumeral (numeral : LongNumeral)
  deriving DecidableEq

namespace Json

/-- The text without the blanks at its beginning. -/
def skipBlanks (s : Text) : Text :=
  s.dropWhile fun c => c = ' ' || c = '\t' || c = '\n' || c = '\r'

/-- The character after a backslash that stands for one character. -/
def escaped? : Char → Option Char
  | '"' => some '"'
  | '\\' => some '\\'
  | '/' => some '/'
  | 'b' => some '\x08'
  | 'f' => some '\x0c'
  | 'n' => some '\n'
  | 'r' => some '\r'
  | 't' => some '\t'
  | _ => none

/-- The character that UTF-16 units at the beginning of a text name, and the number of
characters of the notation; the first unit comes after `\u`. -/
def unitsChar? (s : Text) : Option (Char × Nat) := do
  let unit (s : Text) : Option Nat :=
    if (s.take 4).length = 4 then Text.hexValue? (s.take 4) else none
  let high ← unit s
  if 0xD800 ≤ high ∧ high < 0xDC00 then
    let low ← unit (← Text.dropStart? "\\u" (s.drop 4))
    if 0xDC00 ≤ low ∧ low < 0xE000 then
      some (Char.ofNat (0x10000 + (high - 0xD800) * 0x400 + (low - 0xDC00)), 10)
    else none
  else if high.isValidChar then some (Char.ofNat high, 4)
  else none

/-- A text after its opening quote. The first `skip` characters belong to an escape that
has been read. -/
def stringFrom (skip : Nat) : Text → Option (Text × Text)
  | [] => none
  | c :: rest =>
    match skip with
    | skip + 1 => stringFrom skip rest
    | 0 =>
      if c = '"' then some ([], rest)
      else if c = '\\' then
        match rest with
        | [] => none
        | d :: more => do
          let (e, width) ←
            if d = 'u' then unitsChar? more else (escaped? d).map fun e => (e, 0)
          let (s, after) ← stringFrom width more
          return (e :: s, after)
      else if c.toNat < 0x20 then none
      else do
        let (s, after) ← stringFrom 0 rest
        return (c :: s, after)

/-- A number, and what follows it, if the text begins with one. -/
def number? (s : Text) : Option (Except JsonError (Number × Text)) := do
  let (negative, digits) := match s with
    | '-' :: rest => (true, rest)
    | s => (false, s)
  let whole := match digits with
    | '0' :: _ => ['0']
    | digits => digits.takeWhile Char.isDigit
  if whole.isEmpty then none
  let rest := digits.drop whole.length
  let places := match rest with
    | '.' :: rest => rest.takeWhile Char.isDigit
    | _ => []
  let rest := if places.isEmpty then rest else rest.drop (places.length + 1)
  let (exponent, rest) := exponentOf rest
  if places.isEmpty && exponent.isEmpty then
    return ((Text.decimalValue whole).mapError .longNumeral).map fun n =>
      (.int (if negative then -(n : Int) else n), rest)
  else
    let point := if places.isEmpty then [] else '.' :: places
    let x ← Binary64.ofNumeral? (whole ++ point ++ exponent)
    return .ok (.float (if negative then x.neg else x), rest)
where
  /-- An exponent, if there is one, and what follows it. -/
  exponentOf (s : Text) : Text × Text :=
    match s with
    | e :: rest =>
      if e = 'e' || e = 'E' then
        let (sign, rest) := match rest with
          | '-' :: rest => (['-'], rest)
          | '+' :: rest => (['+'], rest)
          | rest => ([], rest)
        let digits := rest.takeWhile Char.isDigit
        if digits.isEmpty then ([], s) else (e :: sign ++ digits, rest.dropWhile Char.isDigit)
      else ([], s)
    | [] => ([], [])

/-- The words that are values. -/
def words : List (Text × Json) :=
  [("null", .null), ("true", .bool true), ("false", .bool false),
    ("NaN", .number (.float .nan)), ("Infinity", .number (.float (.infinite false))),
    ("-Infinity", .number (.float (.infinite true)))]

/-- A word at the beginning of a text, and what follows it. -/
def word? (s : Text) : Option (Json × Text) :=
  words.findSome? fun (word, j) => (Text.dropStart? word s).map fun rest => (j, rest)

/-- What was read, if anything was. -/
def orMalformed {α : Type} : Option α → Except JsonError α
  | some a => .ok a
  | none => .error .malformed

mutual
/-- A value, and what follows it. -/
def read : (fuel : Nat) → Text → Except JsonError (Json × Text)
  | 0, _ => .error .malformed
  | fuel + 1, s =>
    match s with
    | '"' :: rest => (orMalformed (stringFrom 0 rest)).map fun (s, rest) => (.string s, rest)
    | '[' :: rest =>
      match skipBlanks rest with
      | ']' :: rest => .ok (.array [], rest)
      | rest => (readItems fuel rest).map fun (items, rest) => (.array items, rest)
    | '{' :: rest =>
      match skipBlanks rest with
      | '}' :: rest => .ok (.object [], rest)
      | rest => (readEntries fuel rest).map fun (entries, rest) => (ofFields entries, rest)
    | s =>
      match word? s, number? s with
      | some read, _ => .ok read
      | none, some found => found.map fun (x, rest) => (.number x, rest)
      | none, none => .error .malformed

/-- The items of an array up to its closing bracket, and what follows it. -/
def readItems : (fuel : Nat) → Text → Except JsonError (List Json × Text)
  | 0, _ => .error .malformed
  | fuel + 1, s => do
    let (item, rest) ← read fuel s
    match skipBlanks rest with
    | ']' :: rest => return ([item], rest)
    | ',' :: rest =>
      let (items, rest) ← readItems fuel (skipBlanks rest)
      return (item :: items, rest)
    | _ => throw .malformed

/-- The entries of an object up to its closing brace, and what follows it. -/
def readEntries : (fuel : Nat) → Text → Except JsonError (List (Text × Json) × Text)
  | 0, _ => .error .malformed
  | fuel + 1, s => do
    let (name, rest) ← orMalformed ((Text.dropStart? "\"" s).bind (stringFrom 0))
    let rest ← orMalformed (Text.dropStart? ":" (skipBlanks rest))
    let (value, rest) ← read fuel (skipBlanks rest)
    match skipBlanks rest with
    | '}' :: rest => return ([(name, value)], rest)
    | ',' :: rest =>
      let (entries, rest) ← readEntries fuel (skipBlanks rest)
      return ((name, value) :: entries, rest)
    | _ => throw .malformed
end

/-- The value that a text is. -/
def ofText (s : Text) : Except JsonError Json := do
  let (j, rest) ← read (s.length + 1) (skipBlanks s)
  if (skipBlanks rest).isEmpty then return j else throw .malformed

end Json
end NoteVault
