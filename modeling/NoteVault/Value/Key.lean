import NoteVault.Number.Basic
import NoteVault.Text.Numeral
import NoteVault.Calendar.Iso

/-!
# Keys

The keys of an object are usually texts, but a note can also have other plain
values there. Objects look keys up by `Key.same`, which takes numbers by their
exact value, `true` for one and `false` for zero; not-a-number is the same as
nothing. Wherever keys are shown or compared they are taken by their text.
-/

namespace NoteVault

/-- A key of an object. -/
inductive Key where
  /-- The missing value. -/
  | null
  /-- A truth value. -/
  | bool (b : Bool)
  /-- A number. -/
  | number (x : Number)
  /-- A text. -/
  | string (s : Text)
  /-- A date. -/
  | date (m : Moment)
  deriving DecidableEq

namespace Key

/-- The text of a key. -/
def text : Key → Text
  | .null => "None"
  | .bool true => "True"
  | .bool false => "False"
  | .number x => x.text
  | .string s => s
  | .date m => m.iso ' '

/-- Whether the text of a key can be written: an integer must not have too many digits. -/
def isWritable : Key → Bool
  | .number (.int n) => NoteVault.isWritable n
  | _ => true

/-- The exact value of a number or a truth value. -/
def numeric? : Key → Option ExactNumber
  | .bool b => some (Number.int (if b then 1 else 0)).exact
  | .number x => some x.exact
  | _ => none

/-- Whether two points in time are the same key: by their instant if both clocks
have an offset, field by field if neither has. -/
def sameTime (t u : DateTime) : Bool :=
  match t.offset, u.offset with
  | none, none => t = u
  | some _, some _ => t.instant = u.instant
  | _, _ => false

/-- Whether two keys are the same key of an object. -/
def same (a b : Key) : Bool :=
  match a.numeric?, b.numeric? with
  | some x, some y => x = y && x != .nan
  | none, none =>
    match a, b with
    | .null, .null => true
    | .string s, .string t => s = t
    | .date (.day d), .date (.day e) => d = e
    | .date (.time t), .date (.time u) => sameTime t u
    | _, _ => false
  | _, _ => false

end Key
end NoteVault
