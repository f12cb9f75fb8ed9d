import NoteVault.Calendar.Pattern
import NoteVault.Settings.Basic
import NoteVault.Text.Numeral
import NoteVault.Value.Basic

/-!
# Values as text

How a value is shown in a note. The items of an array stand one after the other,
in brackets only inside another value; the entries of an object stand in braces.
A date that falls on a full midnight is shown without the time, microseconds
being overlooked.
-/

namespace NoteVault.Value

/-- Whether a moment is shown without its time. -/
def showsDayOnly : Moment → Bool
  | .day _ => true
  | .time t => t.hour = 0 && t.minute = 0 && t.second = 0

/-- The text of a date under given settings. -/
def dateText (settings : Settings) (m : Moment) : Text :=
  m.format (if showsDayOnly m then settings.datePattern else settings.dateTimePattern)

mutual
/-- The text of a value; `nested` says that it stands inside another one. -/
def display (settings : Settings) (nested : Bool) : Value → Text
  | .null => "null"
  | .bool b => if b then "true" else "false"
  | .number x => x.headingText
  | .string s => s
  | .date m => dateText settings m
  | .duration d => d.minimalText
  | .html markup => markup
  | .array _ items =>
    let shown := Text.joinWith ", " (displayItems settings items)
    if nested then '[' :: shown ++ [']'] else shown
  | .link l => l.markdown
  | .function | .callable _ => "<function>"
  | .object entries =>
    "\x7b " ++ Text.joinWith ", " (displayEntries settings entries) ++ " \x7d"
  | .task _ | .flat _ | .grouped _ | .untagged => "null"

/-- The texts of some values inside another one. -/
def displayItems (settings : Settings) : List Value → List Text
  | [] => []
  | v :: rest => display settings true v :: displayItems settings rest

/-- The texts of some entries. -/
def displayEntries (settings : Settings) : List (Key × Value) → List Text
  | [] => []
  | (k, v) :: rest => (k.text ++ ": " ++ display settings true v) :: displayEntries settings rest
end

mutual
/-- Whether a value can be shown: its integers do not have too many digits. -/
def isShowable : Value → Bool
  | .number (.int n) => isWritable n
  | .array _ items => areShowable items
  | .object entries => areEntriesShowable entries
  | _ => true

/-- Whether all of some values can be shown. -/
def areShowable : List Value → Bool
  | [] => true
  | v :: rest => isShowable v && areShowable rest

/-- Whether the values of some entries can be shown. -/
def areEntriesShowable : List (Key × Value) → Bool
  | [] => true
  | (_, v) :: rest => isShowable v && areEntriesShowable rest
end

/-- The text of a value on its own. -/
def toText (settings : Settings) (v : Value) : Text := display settings false v

/-- The text of a heading for a value; the settings say what stands for a missing
one. -/
def headingText (settings : Settings) : Value → Text
  | .null => settings.nullText
  | v => toText settings v

end NoteVault.Value
