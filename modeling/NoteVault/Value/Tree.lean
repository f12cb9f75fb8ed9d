import NoteVault.Value.Basic

/-!
# Values as trees

Arrays and objects are the inner nodes of a value, everything else is a leaf,
also a function with entries. `copy` rebuilds the inner nodes and shares the
leaves; `mapLeaves` replaces each leaf, and makes every array a list.
-/

namespace NoteVault.Value

mutual
/-- The value with its arrays and objects built anew. -/
def copy : Value → Value
  | .array kind items => .array kind (copyItems items)
  | .object entries => .object (copyEntries entries)
  | leaf => leaf

/-- Copies of some values. -/
def copyItems : List Value → List Value
  | [] => []
  | v :: rest => copy v :: copyItems rest

/-- Entries with copies of their values. -/
def copyEntries : List (Key × Value) → List (Key × Value)
  | [] => []
  | (k, v) :: rest => (k, copy v) :: copyEntries rest
end

mutual
/-- The value with every leaf replaced by what `f` makes of it, from left to
right. -/
def mapLeavesM {m : Type → Type} [Monad m] (f : Value → m Value) : Value → m Value
  | .array _ items => do return .array .list (← mapItemsM f items)
  | .object entries => do return .object (← mapEntriesM f entries)
  | leaf => f leaf

/-- Some values with every leaf replaced. -/
def mapItemsM {m : Type → Type} [Monad m] (f : Value → m Value) :
    List Value → m (List Value)
  | [] => pure []
  | v :: rest => do
    let v ← mapLeavesM f v
    return v :: (← mapItemsM f rest)

/-- Entries with every leaf of their values replaced. -/
def mapEntriesM {m : Type → Type} [Monad m] (f : Value → m Value) :
    List (Key × Value) → m (List (Key × Value))
  | [] => pure []
  | (k, v) :: rest => do
    let v ← mapLeavesM f v
    return (k, v) :: (← mapEntriesM f rest)
end

/-- The value with every leaf replaced by what `f` makes of it. -/
def mapLeaves (f : Value → Value) (v : Value) : Value := mapLeavesM (m := Id) f v

end NoteVault.Value
