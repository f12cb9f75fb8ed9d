import NoteVault.Task.Node

/-!
# Nested copies

A result can hold an item and also one of the items that it is nested in. The
outer item is shown with everything below it, so the copy of its own is dropped.
Items are recognised by their identifiers.
-/

namespace NoteVault

/-- The identifiers of all nodes nested below some nodes. -/
def nestedIds (items : List TaskNode) : List Text :=
  items.flatMap fun n => n.walk.map TaskNode.id

/-- The items that are not nested below one of them, with their places in the list. -/
def nestPlaces (items : List TaskNode) : List (TaskNode × Nat) :=
  let nested := nestedIds items
  items.zipIdx.filter fun (n, _) => !nested.contains n.id

/-- The items that are not nested below one of them. -/
def nestItems (items : List TaskNode) : List TaskNode := (nestPlaces items).map (·.1)

/-- The identifiers of the items that stay. -/
def retainedIds (items : List TaskNode) : List Text := (nestItems items).map TaskNode.id

end NoteVault
