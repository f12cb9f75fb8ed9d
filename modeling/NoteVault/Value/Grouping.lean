import NoteVault.Record.Basic
import NoteVault.Value.Sorting

/-!
# Groupings

A result is a flat list of rows, or a list of groups, each with a key and rows
that are a grouping again. `Grouping` says which of the two it is. Where a result
comes from elsewhere it is only a value, and its shape decides: a list, not empty,
of nothing but objects with exactly the entries `key` and `rows` is a list of
groups.

`groupPairs` makes groups itself: it sorts rows by their keys, rows with equal
keys keeping their order, and each run of equal keys becomes a group.

## Main definitions

* `Grouping` — flat or grouped rows.
* `Grouping.ofValue`, `Grouping.toValue` — from a value by its shape, and back.
* `groupPairs`, `groupBy` — rows grouped by a key.
-/

namespace NoteVault

/-- Rows, flat or grouped under keys to any depth. -/
inductive Grouping (α : Type) where
  /-- Rows that are not grouped. -/
  | flat (items : List α)
  /-- Groups: a key and the rows under it. -/
  | grouped (groups : List (Value × Grouping α))

/-- Whether a value is an object with exactly the entries `key` and `rows`. -/
def isElementGroup : Value → Bool
  | .object entries =>
    entries.length = 2 && (Entries.get? "key" entries).isSome
      && (Entries.get? "rows" entries).isSome
  | _ => false

/-- Whether all values are groups; where there are none, they are. -/
def isGrouping (values : List Value) : Bool := values.all isElementGroup

namespace Grouping

/-- The number of rows, or of groups. -/
def size {α : Type} : Grouping α → Nat
  | .flat items => items.length
  | .grouped groups => groups.length

/-! ## Values as groupings -/

mutual
/-- The grouping that a value is: explicit, or by its shape. -/
def ofValue : Value → Except RecordError (Grouping Value)
  | .flat items => .ok (.flat items)
  | .grouped groups => do return .grouped (← ofGroups groups)
  | .array _ items =>
    if !items.isEmpty && isGrouping items then do return .grouped (← ofElements items)
    else .ok (.flat items)
  | v => do return .flat (← v.elements)

/-- Explicit groups with their rows. -/
def ofGroups : List (Value × Value) → Except RecordError (List (Value × Grouping Value))
  | [] => .ok []
  | (key, rows) :: rest => do
    let rows ← ofValue rows
    return (key, rows) :: (← ofGroups rest)

/-- Groups given as objects, with their rows. -/
def ofElements : List Value → Except RecordError (List (Value × Grouping Value))
  | [] => .ok []
  | .object entries :: rest => do
    let rows ← rowsIn entries
    return ((Entries.get? "key" entries).getD .null, rows) :: (← ofElements rest)
  | _ :: rest => ofElements rest

/-- The grouping under the name `rows`. -/
def rowsIn : List (Key × Value) → Except RecordError (Grouping Value)
  | [] => .ok (.flat [])
  | (k, v) :: rest => if k.same (.string "rows") then ofValue v else rowsIn rest
end

mutual
/-- The grouping as a list, of its rows or of objects with keys and rows. -/
def toValue : Grouping Value → Value
  | .flat items => .list items
  | .grouped groups => .list (toElements groups)

/-- Groups as objects. -/
def toElements : List (Value × Grouping Value) → List Value
  | [] => []
  | (key, rows) :: rest =>
    .object [(.string "key", key), (.string "rows", toValue rows)] :: toElements rest
end

/-! ## Rows -/

mutual
/-- The grouping with other rows in place of its own. -/
def mapM {ε α β : Type} (f : α → Except ε β) : Grouping α → Except ε (Grouping β)
  | .flat items => do return .flat (← items.mapM f)
  | .grouped groups => do return .grouped (← mapGroupsM f groups)

/-- Groups with other rows in place of their own. -/
def mapGroupsM {ε α β : Type} (f : α → Except ε β) :
    List (Value × Grouping α) → Except ε (List (Value × Grouping β))
  | [] => .ok []
  | (key, rows) :: rest => do
    let rows ← mapM f rows
    return (key, rows) :: (← mapGroupsM f rest)
end

end Grouping

/-! ## Grouping by a key -/

/-- The runs of equal keys in a list of pairs, the first of which has begun with a
key and some rows. -/
def runsFrom {α : Type} (key : Value) (rows : List α) :
    List (Value × α) → Except OrderError (List (Value × List α))
  | [] => .ok [(key, rows)]
  | (k, row) :: rest => do
    match ← Value.compare key k with
    | .eq => runsFrom key (rows ++ [row]) rest
    | _ => return (key, rows) :: (← runsFrom k [row] rest)

/-- The runs of equal keys in a list of pairs, each under its first key. -/
def runs {α : Type} : List (Value × α) → Except OrderError (List (Value × List α))
  | [] => .ok []
  | (key, row) :: rest => runsFrom key [row] rest

/-- Rows with their keys as groups in the order of the keys. -/
def groupPairs {α : Type} (pairs : List (Value × α)) : Except OrderError (Grouping α) := do
  let groups ← runs (← sortedByKey pairs)
  return .grouped (groups.map fun (key, rows) => (key, .flat rows))

/-- Rows as groups by a key, in the order of the keys. -/
def groupBy {α : Type} (key : α → Value) (rows : List α) : Except OrderError (Grouping α) :=
  groupPairs (rows.map fun row => (key row, row))

end NoteVault
