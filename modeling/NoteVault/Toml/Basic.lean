import NoteVault.Calendar.DateTime
import NoteVault.Number.Binary64
import NoteVault.Text.Numeral

/-!
# TOML

The values of the TOML format, and the tables that a document fills step by step.

A document opens tables under headers and puts entries into them, also with dotted keys
that lead through further tables. A table is *opened* once: by a header, or by dotted
keys, which may go on using it only in the section that they stand in. Until then it
exists only because a longer key leads through it. Arrays and tables that are written as
values are closed for good.

## Main definitions

* `Toml` — the values.
* `Toml.Item` — what stands under a key while a document is read.
* `Toml.openTable?`, `appendTable?`, `putValue?` — the three steps.
-/

namespace NoteVault

/-- A time of day without a date. -/
structure ClockTime where
  /-- The hour. -/
  hour : Nat
  /-- The minute. -/
  minute : Nat
  /-- The second. -/
  second : Nat
  /-- The microsecond. -/
  micro : Nat
  deriving DecidableEq

/-- A value of the TOML format. -/
inductive Toml where
  /-- A text. -/
  | string (s : Text)
  /-- An integer. -/
  | integer (n : Int)
  /-- A number with a point or an exponent. -/
  | float (x : Binary64)
  /-- A truth value. -/
  | bool (b : Bool)
  /-- A day. -/
  | date (d : Date)
  /-- A point in time. -/
  | dateTime (t : DateTime)
  /-- A time of day. -/
  | time (t : ClockTime)
  /-- An array. -/
  | array (items : List Toml)
  /-- A table. -/
  | table (entries : List (Text × Toml))

/-- Why a document cannot be read. -/
inductive TomlError where
  /-- It is not TOML. -/
  | malformed
  /-- An integer has too many digits. -/
  | longNumeral (numeral : LongNumeral)
  deriving DecidableEq

/-- The error as a message. -/
def TomlError.message : TomlError → Text
  | .malformed => "malformed settings"
  | .longNumeral numeral => numeral.message

namespace Toml

/-- Why a table exists. -/
inductive Origin where
  /-- A longer key leads through it. -/
  | implied
  /-- A header opened it. -/
  | header
  /-- Dotted keys of a section opened it. -/
  | dotted (sectionNumber : Nat)
  deriving DecidableEq

/-- What stands under a key while a document is read. -/
inductive Item where
  /-- A value. -/
  | value (v : Toml)
  /-- A table. -/
  | table (origin : Origin) (entries : List (Text × Item))
  /-- An array of tables, of which the last one is being filled. -/
  | tables (earlier : List (List (Text × Item))) (last : List (Text × Item))

/-- The entries of a table while a document is read. -/
abbrev Items := List (Text × Item)

/-- The entries with the item under a key replaced, or a new one put last. -/
def putItem (key : Text) (item : Item) : Items → Items
  | [] => [(key, item)]
  | (k, i) :: rest => if k = key then (k, item) :: rest else (k, i) :: putItem key item rest

/-- The entries after a change of the table at the end of a path. Tables on the way that
are missing are created; `pass` says how an existing one looks after a path has led
through it, or that none may. -/
def changeAt (pass : Item → Option Item) (missing : Origin)
    (change : Items → Option Items) : List Text → Items → Option Items
  | [], items => change items
  | key :: path, items => do
    match ← (match items.lookup key with
      | some item => pass item
      | none => some (.table missing [])) with
    | .value _ => none
    | .table origin inner =>
      return putItem key (.table origin (← changeAt pass missing change path inner)) items
    | .tables earlier last =>
      return putItem key (.tables earlier (← changeAt pass missing change path last)) items

/-- A dotted key of a section leads only through tables that nothing else opened. -/
def passDotted (sectionNumber : Nat) : Item → Option Item
  | .table .implied inner => some (.table (.dotted sectionNumber) inner)
  | .table (.dotted n) inner =>
    if n = sectionNumber then some (.table (.dotted n) inner) else none
  | _ => none

/-- A new value under a key. -/
def putNew? (key : Text) (v : Toml) (items : Items) : Option Items :=
  if (items.lookup key).isSome then none else some (putItem key (.value v) items)

/-- A header opens the table at the end of a path. -/
def openTable? (path : List Text) (key : Text) : Items → Option Items :=
  changeAt some .implied (fun items =>
    match items.lookup key with
    | none => some (putItem key (.table .header []) items)
    | some (.table .implied inner) => some (putItem key (.table .header inner) items)
    | some _ => none) path

/-- A header adds a table to the array at the end of a path. -/
def appendTable? (path : List Text) (key : Text) : Items → Option Items :=
  changeAt some .implied (fun items =>
    match items.lookup key with
    | none => some (putItem key (.tables [] []) items)
    | some (.tables earlier last) => some (putItem key (.tables (earlier ++ [last]) []) items)
    | some _ => none) path

/-- A value under a dotted key of the table that the last header opened. -/
def putValue? (sectionNumber : Nat) (header dotted : List Text) (key : Text) (v : Toml) :
    Items → Option Items :=
  changeAt some .implied
    (changeAt (passDotted sectionNumber) (.dotted sectionNumber) (putNew? key v) dotted) header

mutual
/-- The value that an item has become at the end. -/
def ofItem : Item → Toml
  | .value v => v
  | .table _ entries => .table (ofItems entries)
  | .tables earlier last => .array (ofTables earlier ++ [.table (ofItems last)])

/-- The entries of a table at the end. -/
def ofItems : Items → List (Text × Toml)
  | [] => []
  | (key, item) :: rest => (key, ofItem item) :: ofItems rest

/-- The tables of an array at the end. -/
def ofTables : List Items → List Toml
  | [] => []
  | entries :: rest => .table (ofItems entries) :: ofTables rest
end

end Toml
end NoteVault
