import NoteVault.Calendar.Fault
import NoteVault.Text.Hex
import NoteVault.Text.Numeral
import NoteVault.Value.Basic
import NoteVault.Yaml.Fold

/-!
# What plain scalars of YAML mean

A plain scalar is a text unless it looks like something else: nothing, a truth value,
an integer in one of five notations, a number with a point, a date. Low lines between
digits count for nothing, and in a number with colons each part is worth sixty times
the next.

Two plain scalars have a part of their own as keys: `<<` brings in the entries of other
mappings, and `=` is a text. Neither is a value.
-/

namespace NoteVault.Yaml

/-- What can be wrong with a document. -/
inductive YamlError where
  /-- It is not well-formed, or it does not fit together. -/
  | malformed
  /-- A date does not exist. -/
  | calendar (fault : CalendarFault)
  /-- A numeral has no digits after the mark of its base. -/
  | noDigits (base : Nat)
  /-- An integer has too many digits. -/
  | longNumeral (numeral : LongNumeral)
  /-- A part of a number with colons is worth more than a number with a point can be. -/
  | tooManyParts
  deriving DecidableEq

/-- The error as a message. -/
def YamlError.message : YamlError → Text
  | .malformed => "malformed document"
  | .calendar fault => fault.message
  | .noDigits base => "invalid literal for int() with base " ++ Text.ofNat base ++ ": ''"
  | .longNumeral numeral => numeral.message
  | .tooManyParts => "int too large to convert to float"

/-! ## Numbers -/

/-- A numeral without its sign, and whether the sign is a minus. -/
def unsigned : Text → Bool × Text
  | '-' :: s => (true, s)
  | '+' :: s => (false, s)
  | s => (false, s)

/-- Whether a character is a digit or a low line. -/
def isDigitOrLine (c : Char) : Bool := c.isDigit || c = '_'

/-- The characters of a numeral that count. -/
def countedDigits (s : Text) : Text := s.filter (· != '_')

/-- The number that digits of some base denote; none if no digit counts. -/
def basedValue (base : Nat) (digits : Text) : Except YamlError Nat :=
  let counted := countedDigits digits
  if counted.isEmpty then .error (.noDigits base)
  else .ok (counted.foldl (fun n c => base * n + (Text.hexDigit? c).getD 0) 0)

/-- Whether a text is the part of a number after a colon: at most `59`, in one digit or
two. -/
def isSixtieth : Text → Bool
  | [a] => a.isDigit
  | [a, b] => a.isDigit && a ≤ '5' && b.isDigit
  | _ => false

/-- The number whose parts are each worth sixty times the next. -/
def sixtiesValue (parts : List Text) : Except YamlError Nat :=
  parts.foldlM (fun n part => do
    return 60 * n + (← (Text.decimalValue (countedDigits part)).mapError .longNumeral)) 0

/-- The natural number that a numeral denotes, if it is one. -/
def natural? (s : Text) : Option (Except YamlError Nat) :=
  match s with
  | [] => none
  | '0' :: 'b' :: digits =>
    if !digits.isEmpty && digits.all (fun c => c = '0' || c = '1' || c = '_') then
      some (basedValue 2 digits)
    else none
  | '0' :: 'x' :: digits =>
    if !digits.isEmpty && digits.all (fun c => (Text.hexDigit? c).isSome || c = '_') then
      some (basedValue 16 digits)
    else none
  | '0' :: digits =>
    if digits.all (fun c => '0' ≤ c && c ≤ '7' || c = '_') then
      some (basedValue 8 ('0' :: digits))
    else none
  | first :: _ =>
    if !first.isDigit then none
    else
      match Text.splitOn ':' s with
      | [] => none
      | whole :: sixtieths =>
        if whole.all isDigitOrLine && sixtieths.all isSixtieth then
          some (sixtiesValue (whole :: sixtieths))
        else none

/-- The integer that a scalar denotes, if it is one. -/
def integer? (s : Text) : Option (Except YamlError Int) :=
  let (negative, digits) := unsigned s
  (natural? digits).map fun value => value.map fun n => if negative then -(n : Int) else n

/-- Whether a text is an exponent with a sign, or nothing. -/
def isExponent : Text → Bool
  | [] => true
  | e :: sign :: digits =>
    (e = 'e' || e = 'E') && (sign = '+' || sign = '-') && !digits.isEmpty
      && digits.all Char.isDigit
  | _ => false

/-- Whether a text is a number with a point and no sign. There may be no digits before
the point if there are some behind it. -/
def isPointed (s : Text) (mayLackWhole : Bool) : Bool :=
  let whole := s.takeWhile isDigitOrLine
  match s.dropWhile isDigitOrLine with
  | '.' :: rest =>
    let places := rest.takeWhile isDigitOrLine
    isExponent (rest.dropWhile isDigitOrLine)
      && (whole.head?.any Char.isDigit
        || mayLackWhole && whole.isEmpty && places.head?.any Char.isDigit)
  | _ => false

/-- The sum of numbers of which each is worth sixty times the one before it, the first
being worth `worth`; every step is rounded, and so is what a part is worth. -/
def addSixties : (worth : Nat) → Option Magnitude → List (Option Magnitude) →
    Except YamlError (Option Magnitude)
  | _, sum, [] => .ok sum
  | worth, sum, part :: parts =>
    match Magnitude.ofRatio? worth 1 with
    | none => .error .tooManyParts
    | some factor => addSixties (60 * worth) (do (← sum).add? (← (← part).mul? factor)) parts

/-- A magnitude read from digits with at most one point. -/
def magnitudeOf (digits : Text) : Option Magnitude :=
  (Decimal.parse? (countedDigits digits)).bind (·.toMagnitude?)

/-- The number with parts and a point in the last of them, if a text without sign is
one. -/
def pointedSixties? (s : Text) : Option (Except YamlError Binary64) :=
  match Text.splitOn ':' s, Text.splitLast? ':' s with
  | whole :: part :: parts, some (_, last) =>
    let sixtieth := last.takeWhile (· != '.')
    let middle := (part :: parts).dropLast
    if whole.head?.any Char.isDigit && whole.all isDigitOrLine && middle.all isSixtieth
        && isSixtieth sixtieth && (last.dropWhile (· != '.')).head? = some '.'
        && ((last.dropWhile (· != '.')).drop 1).all isDigitOrLine then
      let magnitudes := (whole :: part :: parts).map magnitudeOf
      some ((addSixties 1 (some Magnitude.zero) magnitudes.reverse).map
        (Binary64.ofMagnitude? false))
    else none
  | _, _ => none

/-- The number with a point that a scalar denotes, if it is one. -/
def pointed? (s : Text) : Option (Except YamlError Binary64) :=
  let (negative, digits) := unsigned s
  let signed (x : Binary64) : Binary64 := if negative then x.neg else x
  let isSigned := digits.length != s.length
  if [".inf", ".Inf", ".INF"].any (·.toList = digits) then some (.ok (.infinite negative))
  else if [".nan", ".NaN", ".NAN"].any (·.toList = s) then some (.ok .nan)
  else if isPointed digits !isSigned then
    (Binary64.ofNumeral? (countedDigits digits)).map fun x => .ok (signed x)
  else (pointedSixties? digits).map fun x => x.map signed

/-! ## Dates -/

/-- One digit or two, and the rest. -/
def oneOrTwo? (s : Text) : Option (Nat × Text) :=
  let digits := (s.take 2).takeWhile Char.isDigit
  if digits.isEmpty then none else some (Text.digitsValue digits, s.drop digits.length)

/-- So many digits, and the rest. -/
def fixed? (width : Nat) (s : Text) : Option (Nat × Text) :=
  let digits := s.take width
  if digits.length = width ∧ digits.all Char.isDigit then
    some (Text.digitsValue digits, s.drop width)
  else none

/-- What a zone in the text of a time says. -/
inductive Zone where
  /-- There is no zone. -/
  | absent
  /-- So many seconds ahead of UTC. -/
  | ahead (seconds : Int)

/-- The zone that a text is. -/
def zone? (s : Text) : Option Zone :=
  match s with
  | [] => some .absent
  | _ =>
    match s.dropWhile isSpace with
    | ['Z'] => some (.ahead 0)
    | sign :: rest => do
      let (hours, rest) ← oneOrTwo? rest
      let minutes ← match rest with
        | [] => some 0
        | ':' :: rest => do
          let (minutes, rest) ← fixed? 2 rest
          if rest.isEmpty then some minutes else none
        | _ => none
      let seconds : Int := hours * 3600 + minutes * 60
      if sign = '+' then some (.ahead seconds)
      else if sign = '-' then some (.ahead (-seconds))
      else none
    | [] => none

/-- The date that a scalar of ten characters denotes, if it is one. -/
def day? (s : Text) : Option (Except CalendarFault Date) := do
  let (year, s) ← fixed? 4 s
  let s ← Text.dropStart? "-" s
  let (month, s) ← fixed? 2 s
  let s ← Text.dropStart? "-" s
  let (day, s) ← fixed? 2 s
  if s.isEmpty then some (Date.check year month day) else none

/-- The microseconds that the places of a second denote; only six places count. -/
def placesMicros (places : Text) : Nat :=
  let six := places.take 6
  Text.digitsValue six * Nat.pow 10 (6 - six.length)

/-- The point in time that a scalar denotes, if it is one. -/
def time? (s : Text) : Option (Except CalendarFault DateTime) := do
  let (year, s) ← fixed? 4 s
  let s ← Text.dropStart? "-" s
  let (month, s) ← oneOrTwo? s
  let s ← Text.dropStart? "-" s
  let (day, s) ← oneOrTwo? s
  let s ← match s with
    | c :: rest =>
      if c = 'T' ∨ c = 't' then some rest
      else if isSpace c then some (rest.dropWhile isSpace) else none
    | [] => none
  let (hour, s) ← oneOrTwo? s
  let s ← Text.dropStart? ":" s
  let (minute, s) ← fixed? 2 s
  let s ← Text.dropStart? ":" s
  let (second, s) ← fixed? 2 s
  let (micro, s) := match s with
    | '.' :: rest => (placesMicros (rest.takeWhile Char.isDigit), rest.dropWhile Char.isDigit)
    | s => (0, s)
  let zone ← zone? s
  return do
    let offset ← match zone with
      | .absent => .ok none
      | .ahead seconds =>
        if seconds.natAbs < 86400 then .ok (some seconds) else .error (.offset seconds)
    DateTime.check (← Date.check year month day) hour minute second micro offset

/-! ## All of them -/

/-- The texts that stand for nothing. -/
def nullWords : List Text := ["", "~", "null", "Null", "NULL"].map String.toList

/-- The texts that stand for truth. -/
def trueWords : List Text :=
  ["yes", "Yes", "YES", "true", "True", "TRUE", "on", "On", "ON"].map String.toList

/-- The texts that stand for falsehood. -/
def falseWords : List Text :=
  ["no", "No", "NO", "false", "False", "FALSE", "off", "Off", "OFF"].map String.toList

/-- What a plain scalar means as a value. -/
def plainValue (s : Text) : Except YamlError Value :=
  if nullWords.contains s then .ok .null
  else if trueWords.contains s then .ok (.bool true)
  else if falseWords.contains s then .ok (.bool false)
  else if s = ['='] || s = ['<', '<'] then .error .malformed
  else
    match pointed? s, integer? s, day? s, time? s with
    | some x, _, _, _ => x.map fun x => .number (.float x)
    | none, some (.ok n), _, _ => .ok (.int n)
    | none, some (.error e), _, _ => .error e
    | none, none, some (.ok d), _ => .ok (.date (.day d))
    | none, none, some (.error f), _ => .error (.calendar f)
    | none, none, none, some (.ok t) => .ok (.date (.time t))
    | none, none, none, some (.error f) => .error (.calendar f)
    | none, none, none, none => .ok (.string s)

end NoteVault.Yaml
