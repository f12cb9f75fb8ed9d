import NoteVault.Text.Hex
import NoteVault.Text.Numeral
import NoteVault.Toml.Basic

/-!
# Simple values of TOML

Texts in double quotes have escapes, texts in single quotes have none, and both can go
over several lines in three quotes. Dates, times and numbers follow one fixed form each;
low lines may stand between two digits of a number.

Every function reads at the beginning of a text and returns what follows.
-/

namespace NoteVault.Toml

/-- Whether a control character cannot stand in a text or a comment. -/
def isRefused (inLines : Bool) (c : Char) : Bool :=
  (c.toNat < 0x20 || c.toNat = 0x7F) && c != '\t' && !(inLines && c = '\n')

/-- Whether a character is a blank within a line. -/
def isSpace (c : Char) : Bool := c = ' ' || c = '\t'

/-! ## Texts -/

/-- What an escape makes of the characters after it. -/
inductive Pending where
  /-- Nothing. -/
  | nothing
  /-- So many of them belong to the escape. -/
  | digits (count : Nat)
  /-- Blanks are dropped up to a line end, which has to come. -/
  | lineEnd
  /-- Blanks and line ends are dropped. -/
  | blanks

/-- The character after a backslash that stands for one character. -/
def escaped? : Char → Option Char
  | 'b' => some '\x08'
  | 't' => some '\t'
  | 'n' => some '\n'
  | 'f' => some '\x0c'
  | 'r' => some '\r'
  | '"' => some '"'
  | '\\' => some '\\'
  | _ => none

/-- How many hexadecimal digits follow the letter after a backslash. -/
def escapeWidth? : Char → Option Nat
  | 'u' => some 4
  | 'U' => some 8
  | _ => none

/-- A text after its opening double quote, or three of them. -/
def basicFrom (inLines : Bool) (pending : Pending) : Text → Option (Text × Text)
  | [] => none
  | c :: rest =>
    match pending with
    | .digits (count + 1) => basicFrom inLines (.digits count) rest
    | .lineEnd =>
      if isSpace c then basicFrom inLines .lineEnd rest
      else if c = '\n' then basicFrom inLines .blanks rest
      else none
    | _ =>
      if pending matches .blanks && (isSpace c || c = '\n') then basicFrom inLines .blanks rest
      else if c = '"' && !inLines then some ([], rest)
      else if c = '"' && inLines && rest.take 2 = ['"', '"'] then some ([], rest.drop 2)
      else if c = '\\' then
        match rest with
        | [] => none
        | d :: more =>
          if inLines && d = '\n' then basicFrom inLines .blanks more
          else if inLines && isSpace d then basicFrom inLines .lineEnd more
          else do
            let (e, width) ← match escapeWidth? d with
              | some width => (Text.readHexChar? width more).map fun (e, _) => (e, width)
              | none => (escaped? d).map fun e => (e, 0)
            let (s, after) ← basicFrom inLines (.digits width) more
            return (e :: s, after)
      else if isRefused inLines c then none
      else do
        let (s, after) ← basicFrom inLines .nothing rest
        return (c :: s, after)

/-- A text after its opening single quote, or three of them. -/
def literalFrom (inLines : Bool) : Text → Option (Text × Text)
  | [] => none
  | c :: rest =>
    if c = '\'' && !inLines then some ([], rest)
    else if c = '\'' && rest.take 2 = ['\'', '\''] then some ([], rest.drop 2)
    else if isRefused inLines c then none
    else do
      let (s, after) ← literalFrom inLines rest
      return (c :: s, after)

/-- A text in three quotes, after them. A line end directly behind them does not count,
and up to two quotes before the last three belong to the text. -/
def linesFrom (quote : Char) (s : Text) : Option (Text × Text) := do
  let s := match s with
    | '\n' :: rest => rest
    | s => s
  let (text, rest) ←
    if quote = '"' then basicFrom true .nothing s else literalFrom true s
  let extra := (rest.take 2).takeWhile (· = quote)
  return (text ++ extra, rest.drop extra.length)

/-- A text on one line. -/
def lineString? : Text → Option (Text × Text)
  | '"' :: rest => basicFrom false .nothing rest
  | '\'' :: rest => literalFrom false rest
  | _ => none

/-- A text. -/
def string? : Text → Option (Text × Text)
  | '"' :: '"' :: '"' :: rest => linesFrom '"' rest
  | '\'' :: '\'' :: '\'' :: rest => linesFrom '\'' rest
  | s => lineString? s

/-! ## Dates and times -/

/-- So many digits as a number. -/
def fixed? (width : Nat) (s : Text) : Option (Nat × Text) :=
  let digits := s.take width
  if digits.length = width ∧ digits.all Char.isDigit then
    some (Text.digitsValue digits, s.drop width)
  else none

/-- A time of day; only six places of a second count. -/
def clockTime? (s : Text) : Option (ClockTime × Text) := do
  let (hour, s) ← fixed? 2 s
  let s ← Text.dropStart? ":" s
  let (minute, s) ← fixed? 2 s
  let s ← Text.dropStart? ":" s
  let (second, s) ← fixed? 2 s
  if 24 ≤ hour ∨ 60 ≤ minute ∨ 60 ≤ second then none
  let places := match s with
    | '.' :: rest => rest.takeWhile Char.isDigit
    | _ => []
  let six := places.take 6
  let micro := Text.digitsValue six * Nat.pow 10 (6 - six.length)
  return (⟨hour, minute, second, micro⟩,
    if places.isEmpty then s else s.drop (places.length + 1))

/-- An offset from UTC; there may be none. -/
def offset (s : Text) : Option Int × Text :=
  match s with
  | 'Z' :: rest | 'z' :: rest => (some 0, rest)
  | sign :: rest =>
    let read : Option (Nat × Text) := do
      let (hours, rest) ← fixed? 2 rest
      let rest ← Text.dropStart? ":" rest
      let (minutes, rest) ← fixed? 2 rest
      if 24 ≤ hours ∨ 60 ≤ minutes then none
      return (hours * 3600 + minutes * 60, rest)
    match read with
    | some (seconds, rest) =>
      if sign = '+' then (some (seconds : Int), rest)
      else if sign = '-' then (some (-(seconds : Int)), rest)
      else (none, s)
    | none => (none, s)
  | [] => (none, [])

/-- The year, month and day of a date, if months and days have possible numbers. -/
def dateFields? (s : Text) : Option ((Nat × Nat × Nat) × Text) := do
  let (year, s) ← fixed? 4 s
  let s ← Text.dropStart? "-" s
  let (month, s) ← fixed? 2 s
  let s ← Text.dropStart? "-" s
  let (day, s) ← fixed? 2 s
  if month < 1 ∨ 12 < month ∨ day < 1 ∨ 31 < day then none
  return ((year, month, day), s)

/-- A time after a date. -/
def timeAfterDate? : Text → Option (ClockTime × Text)
  | c :: rest => if c = 'T' || c = 't' || c = ' ' then clockTime? rest else none
  | [] => none

/-- A date, a time, or both, if the text begins like one. The inner result says that
there is no such date. -/
def moment? (s : Text) : Option (Option (Toml × Text)) :=
  match dateFields? s with
  | some ((year, month, day), rest) =>
    match Date.of? year month day with
    | none => some none
    | some d =>
      match timeAfterDate? rest with
      | some (t, rest) =>
        let (zone, rest) := offset rest
        some ((DateTime.of? d t.hour t.minute t.second t.micro zone).map fun t =>
          (.dateTime t, rest))
      | none => some (some (.date d, rest))
  | none => (clockTime? s).map fun (t, rest) => some (.time t, rest)

/-! ## Numbers -/

/-- An integer in another base than ten. -/
def basedInteger? (s : Text) : Option (Toml × Text) :=
  let read (base : Nat) (isDigit : Char → Bool) (rest : Text) : Option (Toml × Text) :=
    let (digits, after) := Text.groupedDigits isDigit rest
    if digits.isEmpty then none
    else
      let n := digits.foldl (fun n c => base * n + (Text.hexDigit? c).getD 0) 0
      some (.integer n, after)
  match s with
  | '0' :: 'x' :: rest => read 16 (fun c => (Text.hexDigit? c).isSome) rest
  | '0' :: 'b' :: rest => read 2 (fun c => c = '0' || c = '1') rest
  | '0' :: 'o' :: rest => read 8 (fun c => '0' ≤ c && c ≤ '7') rest
  | _ => none

/-- A point and digits, without low lines; nothing if there are none. -/
def pointPart (s : Text) : Text × Text :=
  match s with
  | '.' :: rest =>
    match Text.groupedDigits Char.isDigit rest with
    | ([], _) => ([], s)
    | (digits, after) => ('.' :: digits, after)
  | _ => ([], s)

/-- An exponent, without low lines; nothing if there is none. -/
def exponentPart (s : Text) : Text × Text :=
  match s with
  | e :: rest =>
    if e = 'e' || e = 'E' then
      let (sign, rest) := match rest with
        | '-' :: rest => (['-'], rest)
        | '+' :: rest => (['+'], rest)
        | rest => ([], rest)
      match Text.groupedDigits Char.isDigit rest with
      | ([], _) => ([], s)
      | (digits, after) => (e :: sign ++ digits, after)
    else ([], s)
  | [] => ([], [])

/-- A number in base ten, if the text begins with one. -/
def decimal? (s : Text) : Option (Except TomlError (Toml × Text)) := do
  let (negative, s) := match s with
    | '-' :: rest => (true, rest)
    | '+' :: rest => (false, rest)
    | s => (false, s)
  let (whole, rest) := match s with
    | '0' :: rest => (['0'], rest)
    | s => Text.groupedDigits Char.isDigit s
  if whole.isEmpty then none
  let (point, rest) := pointPart rest
  let (exponent, rest) := exponentPart rest
  if point.isEmpty && exponent.isEmpty then
    return ((Text.decimalValue whole).mapError .longNumeral).map fun n =>
      (.integer (if negative then -(n : Int) else n), rest)
  else
    let x ← Binary64.ofNumeral? (whole ++ point ++ exponent)
    return .ok (.float (if negative then x.neg else x), rest)

/-- The words that are values. -/
def words : List (Text × Toml) :=
  [("true", .bool true), ("false", .bool false)]

/-- The words that are numbers. -/
def numberWords : List (Text × Toml) :=
  [("inf", .float (.infinite false)), ("+inf", .float (.infinite false)),
    ("-inf", .float (.infinite true)), ("nan", .float .nan), ("+nan", .float .nan),
    ("-nan", .float .nan)]

/-- One of some words at the beginning of a text. -/
def oneOf? (choices : List (Text × Toml)) (s : Text) : Option (Toml × Text) :=
  choices.findSome? fun (word, v) => (Text.dropStart? word s).map fun rest => (v, rest)

/-- What was read, if anything was. -/
def orMalformed {α : Type} : Option α → Except TomlError α
  | some a => .ok a
  | none => .error .malformed

/-- A value that holds no others. -/
def scalar (s : Text) : Except TomlError (Toml × Text) :=
  match s with
  | '"' :: _ | '\'' :: _ =>
    orMalformed ((string? s).map fun (text, rest) => (.string text, rest))
  | _ =>
    match oneOf? words s, moment? s, basedInteger? s, decimal? s with
    | some read, _, _, _ => .ok read
    | none, some moment, _, _ => orMalformed moment
    | none, none, some read, _ => .ok read
    | none, none, none, some number => number
    | none, none, none, none => orMalformed (oneOf? numberWords s)

end NoteVault.Toml
