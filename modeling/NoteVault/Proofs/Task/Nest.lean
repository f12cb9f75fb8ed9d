import NoteVault.Proofs.Task.Walk
import NoteVault.Task.Nest

/-!
# Nested copies are dropped and nothing is lost

An item is dropped if its identifier is met below one of the items, wherever that one stands in
the list and whether or not it is dropped itself. What stays are items that are met below none.

Nothing is lost by that when the items are of one snapshot, so that nodes with one identifier
have the same below them. The item that a dropped one is met below has more below it, so going
from an item to one that it is met below comes to an end, and it ends at an item that stays.

## Main results

* `mem_nestItems` — which items stay.
* `exists_kept_above` — an item that stays above every node, in one snapshot.
* `nestItems_nesting` — what is known of the items that stay.
-/

namespace NoteVault

open TaskNode

variable {items : List TaskNode}

/-- The nodes that are nested below some nodes. -/
def nodesBelow (items : List TaskNode) : List TaskNode := items.flatMap TaskNode.walk

theorem mem_nodesBelow {d : TaskNode} : d ∈ nodesBelow items ↔ ∃ r ∈ items, d ∈ r.walk :=
  List.mem_flatMap

theorem nestedIds_eq (items : List TaskNode) :
    nestedIds items = (nodesBelow items).map TaskNode.id :=
  List.map_flatMap.symm

/-- The items that stay are those whose identifier is not among those below. -/
theorem nestItems_eq_filter (items : List TaskNode) :
    nestItems items = items.filter fun n => !(nestedIds items).contains n.id := by
  have hfilter : (items.zipIdx.map (·.1)).filter (fun n => !(nestedIds items).contains n.id) =
      nestItems items := List.filter_map
  rw [← hfilter, List.zipIdx_map_fst]

/-- **Which items stay**: those whose identifier is met below no item. -/
theorem mem_nestItems {n : TaskNode} :
    n ∈ nestItems items ↔ n ∈ items ∧ ∀ d ∈ nodesBelow items, d.id ≠ n.id := by
  rw [nestItems_eq_filter, List.mem_filter, nestedIds_eq]
  simp

/-- **Which items are dropped**: those whose identifier is met below some item. -/
theorem not_mem_nestItems {n : TaskNode} (hn : n ∈ items) :
    n ∉ nestItems items ↔ ∃ d ∈ nodesBelow items, d.id = n.id := by
  rw [nestItems_eq_filter, List.mem_filter, nestedIds_eq]
  simp [hn]

theorem nestItems_sublist (items : List TaskNode) : (nestItems items).Sublist items := by
  rw [nestItems_eq_filter]
  exact List.filter_sublist

/-- What is below items that stay is below items. -/
theorem nodesBelow_nestItems_subset (items : List TaskNode) :
    nodesBelow (nestItems items) ⊆ nodesBelow items := by
  intro d hd
  obtain ⟨r, hr, hd⟩ := mem_nodesBelow.mp hd
  exact mem_nodesBelow.mpr ⟨r, (nestItems_sublist items).subset hr, hd⟩

/-- Items that stay once stay. -/
theorem nestItems_nestItems (items : List TaskNode) :
    nestItems (nestItems items) = nestItems items := by
  rw [nestItems_eq_filter (nestItems items)]
  refine List.filter_eq_self.mpr fun n hn => ?_
  obtain ⟨_, hapart⟩ := mem_nestItems.mp hn
  rw [nestedIds_eq]
  simp only [List.contains_eq_mem, List.mem_map, Bool.not_eq_true', decide_eq_false_iff_not]
  rintro ⟨d, hd, hid⟩
  exact hapart d (nodesBelow_nestItems_subset items hd) hid

/-! ## One snapshot -/

/-- Items of one snapshot: nodes with one identifier have nodes with the same identifiers below
them, in the same order. -/
def OneSnapshot (items : List TaskNode) : Prop :=
  ∀ n ∈ walkAll items, ∀ m ∈ walkAll items, n.id = m.id →
    n.walk.map TaskNode.id = m.walk.map TaskNode.id

theorem mem_walkAll_of_mem_nodesBelow {d : TaskNode} (h : d ∈ nodesBelow items) :
    d ∈ walkAll items := by
  obtain ⟨r, hr, hd⟩ := mem_nodesBelow.mp h
  rw [walk_eq] at hd
  exact mem_walkAll.mpr ⟨r, hr, Or.inr hd⟩

/-- An item that is dropped is met below an item with more below it, which has everything that
the dropped one has. -/
theorem OneSnapshot.exists_above (h : OneSnapshot items) {n : TaskNode} (hn : n ∈ items)
    (hdropped : n ∉ nestItems items) :
    ∃ r ∈ items, n.walk.length < r.walk.length ∧
      (n :: n.walk).map TaskNode.id ⊆ (r :: r.walk).map TaskNode.id := by
  obtain ⟨d, hd, hid⟩ := (not_mem_nestItems hn).mp hdropped
  have hsame : d.walk.map TaskNode.id = n.walk.map TaskNode.id :=
    h d (mem_walkAll_of_mem_nodesBelow hd) n (mem_walkAll_self hn) hid
  obtain ⟨r, hr, hd⟩ := mem_nodesBelow.mp hd
  have hlength : n.walk.length = d.walk.length := by
    rw [← List.length_map TaskNode.id, ← hsame, List.length_map]
  rw [walk_eq] at hd
  refine ⟨r, hr, ?_, ?_⟩
  · rw [hlength, walk_eq d, walk_eq r]
    exact length_walkAll_children_lt hd
  · intro t ht
    rw [List.map_cons, ← hid, ← hsame, ← List.map_cons] at ht
    obtain ⟨k, hk, rfl⟩ := List.mem_map.mp ht
    refine List.mem_map_of_mem (List.mem_cons_of_mem r ?_)
    rw [walk_eq r]
    rcases List.mem_cons.mp hk with rfl | hk
    · exact hd
    · rw [walk_eq d] at hk
      exact walkAll_children_subset hd hk

/-- **In one snapshot an item that stays has everything that an item has.** The induction is on
how much less an item has below it than all items together. -/
theorem OneSnapshot.exists_kept_above (h : OneSnapshot items) {n : TaskNode} (hn : n ∈ items) :
    ∃ r ∈ nestItems items,
      (n :: n.walk).map TaskNode.id ⊆ (r :: r.walk).map TaskNode.id := by
  have hbound : ∀ r ∈ items, r.walk.length ≤ (walkAll items).length := by
    intro r hr
    rw [walk_eq]
    exact Nat.le_of_lt (length_walkAll_children_lt (mem_walkAll_self hr))
  induction hroom : (walkAll items).length - n.walk.length using Nat.strongRecOn
    generalizing n with
  | ind room ih =>
      by_cases hkept : n ∈ nestItems items
      · exact ⟨n, hkept, fun _ ht => ht⟩
      · obtain ⟨above, habove, hlength, hsubset⟩ := h.exists_above hn hkept
        have hless : (walkAll items).length - above.walk.length < room := by
          have := hbound above habove
          omega
        obtain ⟨r, hr, hall⟩ := ih _ hless habove rfl
        exact ⟨r, hr, fun _ ht => hall (hsubset ht)⟩

/-! ## What stays -/

/-- What is known of the items that stay. -/
structure Nesting (items : List TaskNode) : Prop where
  /-- Identifiers do not confuse two places. -/
  id_iff : ∀ n m : TaskNode, n.id = m.id ↔ n.path = m.path ∧ n.line = m.line
  /-- The items that stay are in their order. -/
  sublist : (nestItems items).Sublist items
  /-- Of every item, wherever it stands, it only counts whether a node with its place is met
  below an item. -/
  kept : nestItems items = items.filter fun n =>
    !(nodesBelow items).any fun d => d.path = n.path && d.line = n.line
  /-- So an item is dropped exactly if a node with its place is met below an item. -/
  dropped_iff : ∀ n ∈ items, n ∉ nestItems items ↔
    ∃ r ∈ items, ∃ d ∈ r.walk, d.path = n.path ∧ d.line = n.line
  /-- No item that stays is met below an item, dropped or not. -/
  apart : ∀ n ∈ nestItems items, ∀ r ∈ items, ∀ d ∈ r.walk, d.id ≠ n.id
  /-- The identifiers of the items that stay. -/
  retained : ∀ t, t ∈ retainedIds items ↔ ∃ n ∈ nestItems items, n.id = t
  /-- Items that stay once stay, all of them. -/
  again : nestItems (nestItems items) = nestItems items
  /-- In one snapshot the same identifiers are met among the items and below them. -/
  complete : OneSnapshot items → ∀ t,
    (∃ n ∈ nestItems items, ∃ d ∈ n :: n.walk, d.id = t) ↔
      ∃ n ∈ items, ∃ d ∈ n :: n.walk, d.id = t

/-- **Nested copies are dropped and nothing is lost.** -/
theorem nestItems_nesting (items : List TaskNode) : Nesting items where
  id_iff _ _ := id_eq_iff
  sublist := nestItems_sublist items
  kept := by
    rw [nestItems_eq_filter]
    refine List.filter_congr fun n _ => congrArg (!·) ?_
    rw [nestedIds_eq, Bool.eq_iff_iff]
    simp [id_eq_iff]
  dropped_iff n hn := by
    rw [not_mem_nestItems hn]
    constructor
    · rintro ⟨d, hd, hid⟩
      obtain ⟨r, hr, hd⟩ := mem_nodesBelow.mp hd
      exact ⟨r, hr, d, hd, id_eq_iff.mp hid⟩
    · rintro ⟨r, hr, d, hd, hplace⟩
      exact ⟨d, mem_nodesBelow.mpr ⟨r, hr, hd⟩, id_eq_iff.mpr hplace⟩
  apart n hn r hr d hd := (mem_nestItems.mp hn).2 d (mem_nodesBelow.mpr ⟨r, hr, hd⟩)
  retained t := List.mem_map
  again := nestItems_nestItems items
  complete hsnapshot t := by
    constructor
    · rintro ⟨n, hn, hd⟩
      exact ⟨n, (nestItems_sublist items).subset hn, hd⟩
    · rintro ⟨n, hn, d, hd, rfl⟩
      obtain ⟨r, hr, hsubset⟩ := hsnapshot.exists_kept_above hn
      obtain ⟨k, hk, hid⟩ := List.mem_map.mp (hsubset (List.mem_map_of_mem hd))
      exact ⟨r, hr, k, hk, hid⟩

/-- A plain item on a line of a note. -/
def plainItem (path : Text) (line : Int) (children : List TaskNode) : TaskNode :=
  { path, line, lineCount := 1, text := [], symbol := ['-'], status := none, children,
    sectionLink := none, parent := none, blockId := none, tags := [] }

/-- An item, the one it is nested in, and the one that is nested in; and an item of a note that
has a colon in its path. -/
def overlappingItems : List TaskNode :=
  let inner := plainItem "a" 12 [plainItem "a" 13 []]
  let middle := plainItem "a" 11 [inner]
  [inner, middle, plainItem "a:1" 2 [], plainItem "a" 10 [middle, plainItem "a" 14 []]]

theorem nestItems_nesting_overlapping :
    OneSnapshot overlappingItems ∧
      (nestItems overlappingItems).map TaskNode.id = [("a:1:2" : Text), ("a:10" : Text)] ∧
      ∀ t, (∃ n ∈ nestItems overlappingItems, ∃ d ∈ n :: n.walk, d.id = t) ↔
        ∃ n ∈ overlappingItems, ∃ d ∈ n :: n.walk, d.id = t := by
  have hsnapshot : OneSnapshot overlappingItems := by
    unfold OneSnapshot
    decide +kernel
  exact ⟨hsnapshot, by decide +kernel, (nestItems_nesting overlappingItems).complete hsnapshot⟩

end NoteVault
