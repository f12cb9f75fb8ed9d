import NoteVault.Value.Order

/-!
# Sorting

Things are sorted by a comparison that may be refused. Each is inserted behind
everything that does not come after it, so things that compare equal keep their
order; if any comparison that is needed is refused, so is the sorting.
-/

namespace NoteVault

/-- A sorted list with one more thing, behind all that it does not come before. -/
def insertSorted {ε α : Type} (cmp : α → α → Except ε Ordering) (x : α) :
    List α → Except ε (List α)
  | [] => .ok [x]
  | y :: rest => do
    match ← cmp x y with
    | .lt => return x :: y :: rest
    | _ => return y :: (← insertSorted cmp x rest)

/-- A list in the order of a comparison; equal things keep their order. -/
def sortedBy {ε α : Type} (cmp : α → α → Except ε Ordering) (xs : List α) :
    Except ε (List α) :=
  xs.foldlM (fun sorted x => insertSorted cmp x sorted) []

/-- Pairs sorted by their keys in the order of values. -/
def sortedByKey {α : Type} (pairs : List (Value × α)) : Except OrderError (List (Value × α)) :=
  sortedBy (fun a b => Value.compare a.1 b.1) pairs

end NoteVault
