import NoteVault.Text.Blank
import NoteVault.Text.Numeral
import NoteVault.Value.Inspect

/-!
# Records

Links and tasks travel between programs as records: objects with fixed names for
their fields. A record can be written by hand, so reading one is lenient where
the meaning is clear (a line given as text, a flag given as a number) and says
what is wrong where it is not.

## Main definitions

* `RecordError` — what can be wrong with a record.
* `Value.isSet` — a value taken as a flag.
* `Value.toInteger` — a value taken as an integer.
* `Value.elements` — a value taken as a sequence.
-/

namespace NoteVault

/-- What can be wrong with a record. -/
inductive RecordError where
  /-- A field that must be there is not. -/
  | missing (field : Text)
  /-- The parts of a link do not fit together. -/
  | link (error : LinkError)
  /-- A text that is not an integer, as a message shows it. -/
  | notAnInteger (shown : Text)
  /-- An integer with too many digits. -/
  | longNumeral (numeral : LongNumeral)
  /-- Not-a-number where an integer is needed. -/
  | nanAsInteger
  /-- An infinity where an integer is needed. -/
  | infinityAsInteger
  /-- A value of the wrong type. -/
  | wrongType
  /-- A value that does not have the fields looked for. -/
  | notARecord
  deriving DecidableEq

/-- The error as a message. -/
def RecordError.message : RecordError → Text
  | .missing field => Text.quoted field
  | .link error => error.message
  | .notAnInteger shown => "invalid literal for int() with base 10: " ++ shown.take 200
  | .longNumeral numeral => numeral.message
  | .nanAsInteger => "cannot convert float NaN to integer"
  | .infinityAsInteger => "cannot convert float infinity to integer"
  | .wrongType => "value of the wrong type"
  | .notARecord => "value without fields"

namespace Value

/-- A value taken as a flag: nothing, zero and whatever is empty are not set. -/
def isSet : Value → Bool
  | .null => false
  | .bool b => b
  | .number x => !x.isZero
  | .string s => !s.isEmpty
  | .duration d => d.micros != 0
  | .array _ items | .flat items => !items.isEmpty
  | .object entries | .callable entries => !entries.isEmpty
  | .grouped groups => !groups.isEmpty
  | .date _ | .html _ | .link _ | .function | .task _ | .untagged => true

/-- A value that must be a text. -/
def asText : Value → Except RecordError Text
  | .string s => .ok s
  | _ => .error .wrongType

/-- A value that is a text or missing. -/
def asText? : Value → Except RecordError (Option Text)
  | .null => .ok none
  | .string s => .ok (some s)
  | _ => .error .wrongType

end Value

/-! ## Integers -/

/-- A blank that may surround a numeral: the four separators do not. -/
def isNumeralBlank (c : Char) : Bool := Text.isBlank c && !(0x1C ≤ c.toNat && c.toNat ≤ 0x1F)

/-- Why a text is not an integer. -/
inductive NumeralFault where
  /-- It is no numeral. -/
  | malformed
  /-- It has too many digits. -/
  | long (numeral : LongNumeral)
  deriving DecidableEq

/-- The natural number that a numeral of at least one digit denotes, where single low lines
may stand between digits. Too many digits are a fault even if other characters follow. -/
def readNatural (s : Text) : Except NumeralFault Nat := do
  let (digits, rest) := Text.groupedDigits Text.isDigit s
  if digits.isEmpty || rest.head? = some '_' then throw .malformed
  let n ← (Text.decimalValue digits).mapError .long
  if rest.isEmpty then return n else throw .malformed

/-- The integer that a text denotes: digits with a sign in front, and blanks
around them. -/
def readInteger (s : Text) : Except NumeralFault Int :=
  match Text.dropEndWhile isNumeralBlank (s.dropWhile isNumeralBlank) with
  | '-' :: digits => (readNatural digits).map fun n => -n
  | '+' :: digits => (readNatural digits).map fun n => n
  | digits => (readNatural digits).map fun n => n

namespace Value

/-- A value taken as an integer: numbers lose what is after the point, and a text
must denote an integer. -/
def toInteger : Value → Except RecordError Int
  | .bool b => .ok (if b then 1 else 0)
  | .number (.int n) => .ok n
  | .number (.float .nan) => .error .nanAsInteger
  | .number (.float (.infinite _)) => .error .infinityAsInteger
  | .number (.float (.finite negative m)) => .ok (if negative then -(m.whole : Int) else m.whole)
  | .string s =>
    match readInteger s with
    | .ok n => .ok n
    | .error .malformed => .error (.notAnInteger (Text.quoted s))
    | .error (.long numeral) => .error (.longNumeral numeral)
  | _ => .error .wrongType

/-- A value taken as a sequence: a text of its characters, an object of its
keys. -/
def elements : Value → Except RecordError (List Value)
  | .array _ items => .ok items
  | .string s => .ok (s.map fun c => .string [c])
  | .object entries | .callable entries =>
    .ok (entries.map (·.1.toValue))
  | _ => .error .wrongType

end Value
end NoteVault
