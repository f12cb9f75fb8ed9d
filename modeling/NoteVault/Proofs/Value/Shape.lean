import Mathlib.Data.List.Forall2
import NoteVault.Value.Grouping

/-!
# Groupings known by their shape

A list is read as groups if it is not empty and all its items look like groups; otherwise its items
are rows. Nothing else is looked at, so reading a list and writing it again can only lose the order
in which a group lists its two entries, provided that the rows of every group that is met are a
list again.

The other way round the shape has to tell what a grouping is. A list of no groups looks like no
rows, and rows that all look like groups look grouped; a grouping without either, at any depth, is
written and read again, and one with either is not.

## Main results

* `isElementGroup_iff` — what looks like a group.
* `Grouping.rearranged_of_isRaw` — lists read and written again.
* `Grouping.ofValue_toValue_iff` — groupings written and read again.
* `Grouping.roundTrips` — both, and explicit groupings, which are read as they are.
-/

namespace NoteVault

namespace Value

/-! ## Values up to the order of entries -/

/-- Two values differ in no more than the order of entries, at any depth. -/
inductive Rearranged : Value → Value → Prop
  /-- They do not differ. -/
  | same (v : Value) : Rearranged v v
  /-- The items of an array differ in no more. -/
  | array {kind : ArrayKind} {items items' : List Value}
    (hitems : List.Forall₂ Rearranged items items') :
    Rearranged (array kind items) (array kind items')
  /-- The entries of an object stand in another order, and their values differ in no more. -/
  | object {entries listed entries' : List (Key × Value)} (hperm : entries.Perm listed)
    (hkeys : listed.map (·.1) = entries'.map (·.1))
    (hvalues : List.Forall₂ Rearranged (listed.map (·.2)) (entries'.map (·.2))) :
    Rearranged (object entries) (object entries')

/-! ## What looks like a group -/

/-- A value is a group with a key and rows: an object of these two entries, in either order. -/
inductive IsGroup (key rows : Value) : Value → Prop
  /-- The key stands first. -/
  | keyFirst : IsGroup key rows (object [(.string "key", key), (.string "rows", rows)])
  /-- The rows stand first. -/
  | rowsFirst : IsGroup key rows (object [(.string "rows", rows), (.string "key", key)])

/-- A result as it comes from elsewhere: a list, and if all its items are groups, the rows of each
are such a result again. -/
inductive IsRaw : Value → Prop
  /-- A list. -/
  | list {items : List Value}
    (hrows : isGrouping items = true → ∀ v ∈ items, ∀ key rows, IsGroup key rows v → IsRaw rows) :
    IsRaw (list items)

end Value

open Value

theorem Key.same_string_iff {k : Key} {name : Text} :
    k.same (.string name) = true ↔ k = .string name := by
  cases k <;> simp [same, numeric?]

theorem Entries.isSome_get?_iff {α : Type} {name : Text} {entries : List (Key × α)} :
    (get? name entries).isSome = true ↔ ∃ e ∈ entries, e.1 = .string name := by
  induction entries with
  | nil => simp [get?]
  | cons e rest ih =>
      obtain ⟨k, v⟩ := e
      rw [get?, List.exists_mem_cons_iff, ← ih, ← Key.same_string_iff]
      split
      · next h => simp [h]
      · next h => simp [h]

/-- **What looks like a group** is one. -/
theorem isElementGroup_iff {v : Value} :
    isElementGroup v = true ↔ ∃ key rows, IsGroup key rows v := by
  constructor
  · intro h
    cases v with
    | object entries =>
        simp only [isElementGroup, Bool.and_eq_true, decide_eq_true_eq,
          Entries.isSome_get?_iff] at h
        obtain ⟨⟨hlength, hkey⟩, hrows⟩ := h
        obtain ⟨⟨k, v⟩, ⟨k', w⟩, rfl⟩ := List.length_eq_two.mp hlength
        simp only [List.exists_mem_cons_iff, List.not_mem_nil, false_and, exists_false,
          or_false] at hkey hrows
        rcases hkey with rfl | rfl
        · obtain rfl : k' = .string "rows" := hrows.resolve_left (by decide)
          exact ⟨v, w, .keyFirst⟩
        · obtain rfl : k = .string "rows" := hrows.resolve_right (by decide)
          exact ⟨w, v, .rowsFirst⟩
    | _ => cases h
  · rintro ⟨key, rows, h⟩
    cases h <;> rfl

theorem Value.IsGroup.get?_rows {key rows : Value} {entries : List (Key × Value)}
    (h : IsGroup key rows (.object entries)) : Entries.get? "rows" entries = some rows := by
  cases h <;> rfl

theorem isGrouping_iff {items : List Value} :
    isGrouping items = true ↔ ∀ v ∈ items, ∃ key rows, IsGroup key rows v := by
  rw [isGrouping, List.all_eq_true]
  simp only [isElementGroup_iff]

/-- A group whose rows differ in no more than the order of entries. -/
theorem Value.IsGroup.rearranged {key rows rows' v : Value} (h : IsGroup key rows v)
    (hrows : Rearranged rows' rows) :
    Rearranged (.object [(.string "key", key), (.string "rows", rows')]) v := by
  cases h with
  | keyFirst =>
      exact .object (List.Perm.refl _) rfl (.cons (.same key) (.cons hrows .nil))
  | rowsFirst =>
      exact .object (List.Perm.swap _ _ _) rfl (.cons hrows (.cons (.same key) .nil))

namespace Grouping

/-! ## Lists read and written again -/

theorem ofElements_cons {key rows v : Value} (h : IsGroup key rows v) (rest : List Value) :
    ofElements (v :: rest) = (do
      let read ← ofValue rows
      return (key, read) :: (← ofElements rest)) := by
  cases h <;> rfl

/-- Groups are read if their rows are, and written with rows that differ in no more. -/
theorem rearranged_of_groups {items : List Value}
    (h : ∀ v ∈ items, ∃ key rows read, IsGroup key rows v ∧ ofValue rows = .ok read ∧
      Rearranged read.toValue rows) :
    ∃ groups, ofElements items = .ok groups ∧
      List.Forall₂ Rearranged (toElements groups) items := by
  induction items with
  | nil => exact ⟨[], rfl, .nil⟩
  | cons v rest ih =>
      obtain ⟨hv, hrest⟩ := List.forall_mem_cons.mp h
      obtain ⟨key, rows, read, hgroup, hread, hrows⟩ := hv
      obtain ⟨groups, hgroups, hrearranged⟩ := ih hrest
      refine ⟨(key, read) :: groups, ?_, .cons (hgroup.rearranged hrows) hrearranged⟩
      rw [ofElements_cons hgroup, hread, hgroups]
      rfl

theorem ofValue_list (items : List Value) : ofValue (.list items) =
    if !items.isEmpty && isGrouping items then (do return .grouped (← ofElements items))
    else .ok (.flat items) := by
  rw [Value.list, ofValue]

/-- **Lists read and written again.** -/
theorem rearranged_of_isRaw {raw : Value} (h : raw.IsRaw) :
    ∃ read, ofValue raw = .ok read ∧ Rearranged read.toValue raw := by
  induction h with
  | @list items _ ih =>
      rw [ofValue_list]
      by_cases hgroups : (!items.isEmpty && isGrouping items) = true
      · rw [if_pos hgroups]
        have hgrouping := (Bool.and_eq_true_iff.mp hgroups).2
        have hitems : ∀ v ∈ items, ∃ key rows read, IsGroup key rows v ∧ ofValue rows = .ok read ∧
            Rearranged read.toValue rows := by
          intro v hv
          obtain ⟨key, rows, hgroup⟩ := isGrouping_iff.mp hgrouping v hv
          obtain ⟨read, hread, hrows⟩ := ih hgrouping v hv key rows hgroup
          exact ⟨key, rows, read, hgroup, hread, hrows⟩
        obtain ⟨groups, hread, hrearranged⟩ := rearranged_of_groups hitems
        rw [hread]
        exact ⟨.grouped groups, rfl, .array hrearranged⟩
      · rw [if_neg hgroups]
        exact ⟨.flat items, rfl, .same _⟩

/-! ## Groupings written and read again -/

mutual
/-- Whether the shape of a grouping tells what it is: no list of groups in it is empty, and no
rows, if there are any, all look like groups. -/
def isLegible : Grouping Value → Bool
  | .flat items => items.isEmpty || !isGrouping items
  | .grouped groups => !groups.isEmpty && areLegible groups

/-- Whether the shapes of the rows of some groups tell what they are. -/
def areLegible : List (Value × Grouping Value) → Bool
  | [] => true
  | (_, rows) :: rest => isLegible rows && areLegible rest
end

/-- Written groups look like groups. -/
theorem isGrouping_toElements (groups : List (Value × Grouping Value)) :
    isGrouping (toElements groups) = true := by
  induction groups with
  | nil => rfl
  | cons g rest ih =>
      obtain ⟨key, rows⟩ := g
      rw [isGrouping] at ih ⊢
      rw [toElements, List.all_cons, ih]
      rfl

theorem cons_eq_ok_iff {ε κ α : Type} {key : κ} {first : Except ε α}
    {others : Except ε (List (κ × α))} {a : α} {rest : List (κ × α)} :
    (do let read ← first; return (key, read) :: (← others)) = .ok ((key, a) :: rest) ↔
      first = .ok a ∧ others = .ok rest := by
  cases first <;> cases others <;> simp [Bind.bind, Except.bind, Pure.pure, Except.pure]

theorem grouped_ne_flat {ε : Type} (groups : Except ε (List (Value × Grouping Value)))
    (items : List Value) : (do return .grouped (← groups)) ≠ Except.ok (Grouping.flat items) := by
  cases groups <;> nofun

theorem grouped_eq_ok_iff {ε : Type} {read : Except ε (List (Value × Grouping Value))}
    {groups : List (Value × Grouping Value)} :
    (do return .grouped (← read)) = Except.ok (Grouping.grouped groups) ↔ read = .ok groups := by
  cases read <;> simp [Bind.bind, Except.bind, Pure.pure, Except.pure]

/-- Rows that are not taken for groups are those whose shape tells what they are. -/
theorem ofValue_toValue_flat_iff (items : List Value) :
    ofValue (toValue (.flat items)) = .ok (.flat items) ↔ isLegible (.flat items) = true := by
  have hlegible : isLegible (.flat items) = !(!items.isEmpty && isGrouping items) := by
    rw [isLegible, Bool.not_and, Bool.not_not]
  rw [toValue, ofValue_list, hlegible]
  cases hgroups : !items.isEmpty && isGrouping items with
  | false => exact iff_of_true rfl rfl
  | true => exact iff_of_false (grouped_ne_flat _ items) nofun

mutual
/-- **Groupings written and read again**: those whose shape tells what they are. -/
theorem ofValue_toValue_iff : ∀ g : Grouping Value, ofValue g.toValue = .ok g ↔ g.isLegible = true
  | .flat items => ofValue_toValue_flat_iff items
  | .grouped [] => iff_of_false nofun nofun
  | .grouped (g :: groups) => by
      have hgroups : (!(toElements (g :: groups)).isEmpty &&
          isGrouping (toElements (g :: groups))) = true := by
        rw [isGrouping_toElements]
        rfl
      rw [toValue, ofValue_list, if_pos hgroups, grouped_eq_ok_iff,
        ofElements_toElements_iff (g :: groups)]
      rfl

theorem ofElements_toElements_iff : ∀ groups : List (Value × Grouping Value),
    ofElements (toElements groups) = .ok groups ↔ areLegible groups = true
  | [] => iff_of_true rfl rfl
  | (key, rows) :: rest => by
      rw [toElements, ofElements_cons .keyFirst, cons_eq_ok_iff, areLegible, Bool.and_eq_true,
        ofValue_toValue_iff rows, ofElements_toElements_iff rest]
end

/-! ## Explicit groupings -/

mutual
/-- The value that is a grouping and says so. -/
def explicit : Grouping Value → Value
  | .flat items => .flat items
  | .grouped groups => .grouped (explicitGroups groups)

/-- Groups with values as rows that say what they are. -/
def explicitGroups : List (Value × Grouping Value) → List (Value × Value)
  | [] => []
  | (key, rows) :: rest => (key, explicit rows) :: explicitGroups rest
end

mutual
/-- An explicit grouping is read as it is. -/
theorem ofValue_explicit : ∀ g : Grouping Value, ofValue g.explicit = .ok g
  | .flat items => rfl
  | .grouped groups => by rw [explicit, ofValue, ofGroups_explicitGroups groups]; rfl

theorem ofGroups_explicitGroups : ∀ groups : List (Value × Grouping Value),
    ofGroups (explicitGroups groups) = .ok groups
  | [] => rfl
  | (key, rows) :: rest => by
      rw [explicitGroups, ofGroups, ofValue_explicit rows, ofGroups_explicitGroups rest]
      rfl
end

/-- **Groupings and their shapes.** A list is read and written again with no more changed than the
order of the entries of groups; a grouping is written and read again exactly if its shape tells
what it is; and one that says what it is, is read as it is. -/
theorem roundTrips :
    (∀ raw : Value, raw.IsRaw → ∃ read, ofValue raw = .ok read ∧ Rearranged read.toValue raw) ∧
      (∀ g : Grouping Value, ofValue g.toValue = .ok g ↔ g.isLegible = true) ∧
      ∀ g : Grouping Value, ofValue g.explicit = .ok g :=
  ⟨fun _ => rearranged_of_isRaw, ofValue_toValue_iff, ofValue_explicit⟩

/-- Rows of which only the first looks like a group. -/
def partlyGroupedRows : Value :=
  .list [.object [(.string "key", .null), (.string "rows", .int 1)], .int 2]

/-- Groups within a group, and a group that lists its rows first and has none. -/
def nestedGroups : Value :=
  let inner := .object [(.string "key", .null), (.string "rows", partlyGroupedRows)]
  .list [.object [(.string "rows", .list []), (.string "key", .int 1)],
    .object [(.string "key", .string ['b']), (.string "rows", .list [inner])]]

theorem isRaw_partlyGroupedRows : partlyGroupedRows.IsRaw :=
  .list fun h => absurd h (by decide)

theorem roundTrips_nested :
    nestedGroups.IsRaw ∧
      ∃ read, ofValue nestedGroups = .ok read ∧ Rearranged read.toValue nestedGroups := by
  have hraw : nestedGroups.IsRaw := by
    refine .list fun _ v hv key rows hgroup => ?_
    simp only [List.mem_cons, List.not_mem_nil, or_false] at hv
    rcases hv with rfl | rfl
    · rw [← Option.some.inj hgroup.get?_rows]
      exact .list fun _ => nofun
    · rw [← Option.some.inj hgroup.get?_rows]
      refine .list fun _ v hv key rows hgroup => ?_
      rw [List.mem_singleton.mp hv] at hgroup
      rw [← Option.some.inj hgroup.get?_rows]
      exact isRaw_partlyGroupedRows
  exact ⟨hraw, roundTrips.1 nestedGroups hraw⟩

end Grouping
end NoteVault
