import NoteVault.Calendar.Duration
import NoteVault.Task.Node
import NoteVault.Value.Key

/-!
# Values

The values that fields of notes have, that tasks are filtered by and that results
are made of. Nearly every value has one of eleven tags, which decides how it is
compared, shown and tested. A function is only known to be one; if it also has
entries it is a function all the same. Tasks, explicit groupings and foreign
things have no tag.

## Main definitions

* `Value` — the values.
* `Tag`, `Value.tag?` — the tags and the tag of a value.
* `Entries.put`, `Entries.ofList`, `Entries.get?` — the entries of objects, in the
  order in which their keys first came.
-/

namespace NoteVault

/-- The two kinds of array. -/
inductive ArrayKind where
  /-- A list. -/
  | list
  /-- A tuple, of fixed length. -/
  | tuple
  deriving DecidableEq

/-- The values of notes and results. -/
inductive Value where
  /-- The missing value. -/
  | null
  /-- A truth value. -/
  | bool (b : Bool)
  /-- A number. -/
  | number (x : Number)
  /-- A text. -/
  | string (s : Text)
  /-- A date. -/
  | date (m : Moment)
  /-- A length of time. -/
  | duration (d : Duration)
  /-- Rendered markup. -/
  | html (markup : Text)
  /-- An array. -/
  | array (kind : ArrayKind) (items : List Value)
  /-- A link. -/
  | link (l : Link)
  /-- A function. -/
  | function
  /-- A function that also has entries. -/
  | callable (entries : List (Key × Value))
  /-- An object. -/
  | object (entries : List (Key × Value))
  /-- A task. -/
  | task (n : TaskNode)
  /-- Rows that are explicitly not grouped. -/
  | flat (items : List Value)
  /-- Rows that are explicitly grouped: the key of each group and its rows. -/
  | grouped (groups : List (Value × Value))
  /-- Anything else. -/
  | untagged

/-- The tags of values. -/
inductive Tag where
  | null | number | string | boolean | duration | date | html | array | link | function | object
  deriving DecidableEq

namespace Tag

/-- All tags. -/
def all : List Tag :=
  [.null, .number, .string, .boolean, .duration, .date, .html, .array, .link, .function, .object]

/-- The name of a tag. -/
def name : Tag → Text
  | .null => "null"
  | .number => "number"
  | .string => "string"
  | .boolean => "boolean"
  | .duration => "duration"
  | .date => "date"
  | .html => "html"
  | .array => "array"
  | .link => "link"
  | .function => "function"
  | .object => "object"

end Tag

namespace Value

/-- The tag of a value, if it has one. -/
def tag? : Value → Option Tag
  | .null => some .null
  | .bool _ => some .boolean
  | .number _ => some .number
  | .string _ => some .string
  | .date _ => some .date
  | .duration _ => some .duration
  | .html _ => some .html
  | .array _ _ => some .array
  | .link _ => some .link
  | .function | .callable _ => some .function
  | .object _ => some .object
  | .task _ | .flat _ | .grouped _ | .untagged => none

/-- Whether a value has a given tag. -/
def hasTag (v : Value) (tag : Tag) : Bool := v.tag? = some tag

/-- Whether a value is made of other values that are rebuilt when it is copied. -/
def isContainer : Value → Bool
  | .array _ _ | .object _ => true
  | _ => false

/-- A list. -/
def list (items : List Value) : Value := .array .list items

/-- An integer. -/
def int (n : Int) : Value := .number (.int n)

/-- The value as a key, if it can be one. -/
def toKey? : Value → Option Key
  | .null => some .null
  | .bool b => some (.bool b)
  | .number x => some (.number x)
  | .string s => some (.string s)
  | .date m => some (.date m)
  | _ => none

end Value

/-- A key as a value. -/
def Key.toValue : Key → Value
  | .null => .null
  | .bool b => .bool b
  | .number x => .number x
  | .string s => .string s
  | .date m => .date m

/-! ## Entries -/

namespace Entries

/-- The entries with a value under a key. A key that is already there keeps its
place and takes the new value; a new one comes last. -/
def put {α : Type} (key : Key) (value : α) : List (Key × α) → List (Key × α)
  | [] => [(key, value)]
  | (k, v) :: rest => if k.same key then (k, value) :: rest else (k, v) :: put key value rest

/-- The entries that a list of keys and values describes, taken one after the
other. -/
def ofList {α : Type} (pairs : List (Key × α)) : List (Key × α) :=
  pairs.foldl (fun entries (k, v) => put k v entries) []

/-- The value under a key that is a text. -/
def get? {α : Type} (name : Text) : List (Key × α) → Option α
  | [] => none
  | (k, v) :: rest => if k.same (.string name) then some v else get? name rest

end Entries
end NoteVault
