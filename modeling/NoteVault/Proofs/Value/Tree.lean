import NoteVault.Proofs.Order.Equality
import NoteVault.Value.Tree

/-!
# Copies and maps of values

Arrays and objects are the inner nodes of a value. What goes down a value treats their parts one
by one, so it is `List.map` or `List.mapM` on the parts, and one induction on the nesting serves
for all that is said here.

A copy is the same value. Mapping keeps what the order sees of inner nodes: the parts of an array,
not its kind, and the entries of an object. It hands each leaf to the function once, from left to
right, and nothing else; a function with entries is a leaf. As long as the first function returns
leaves, mapping twice is mapping once, also where the functions can fail.

## Main definitions

* `Value.leaves` — the leaves of a value, from left to right.
* `Value.StandsIn` — a value stands somewhere in another one.
* `Value.noted` — a function that notes what it is applied to.

## Main results

* `Value.nestingInduction` — induction on the nesting of arrays and objects.
* `Value.mem_leaves_iff` — the leaves are what stands in a value and is no inner node.
* `Value.mapLeavesM_noted` — what a function is applied to are the leaves.
* `Value.mapLeavesM_bind` — mapping twice is mapping once.
* `Value.rebuilding_laws` — copies and maps keep the structure.
-/

namespace NoteVault

/-! ## Lists -/

/-- Two passes over a list in which things can fail are one. -/
theorem mapM_bind_mapM {α β γ : Type} {f : α → Option β} {g : β → Option γ} {both : α → Option γ}
    {xs : List α} (h : ∀ x ∈ xs, (f x).bind g = both x) :
    ((xs.mapM f).bind fun ys => ys.mapM g) = xs.mapM both := by
  induction xs with
  | nil => rfl
  | cons x xs ih =>
      have hx : (f x).bind g = both x := h x List.mem_cons_self
      have hxs := ih fun y hy => h y (List.mem_cons_of_mem x hy)
      rw [List.mapM_cons, List.mapM_cons, ← hx, ← hxs]
      -- the second pass over the head commutes with the first pass over the tail
      cases f x with
      | none => rfl
      | some y =>
          cases xs.mapM f with
          | none => simp
          | some ys => simp

namespace Value

/-! ## Nesting -/

mutual
/-- Induction on the nesting of arrays and objects. -/
theorem nestingInduction {motive : Value → Prop}
    (array : ∀ kind items, (∀ v ∈ items, motive v) → motive (.array kind items))
    (object : ∀ entries, (∀ e ∈ entries, motive e.2) → motive (.object entries))
    (leaf : ∀ v, v.isContainer = false → motive v) : ∀ v, motive v
  | .array kind items => array kind items (itemsInduction array object leaf items)
  | .object entries => object entries (entriesInduction array object leaf entries)
  | .null | .bool _ | .number _ | .string _ | .date _ | .duration _ | .html _ | .link _
  | .function | .callable _ | .task _ | .flat _ | .grouped _ | .untagged => leaf _ rfl

theorem itemsInduction {motive : Value → Prop}
    (array : ∀ kind items, (∀ v ∈ items, motive v) → motive (.array kind items))
    (object : ∀ entries, (∀ e ∈ entries, motive e.2) → motive (.object entries))
    (leaf : ∀ v, v.isContainer = false → motive v) : ∀ items : List Value, ∀ v ∈ items, motive v
  | [] => fun _ hv => absurd hv List.not_mem_nil
  | v :: rest => List.forall_mem_cons.mpr
      ⟨nestingInduction array object leaf v, itemsInduction array object leaf rest⟩

theorem entriesInduction {motive : Value → Prop}
    (array : ∀ kind items, (∀ v ∈ items, motive v) → motive (.array kind items))
    (object : ∀ entries, (∀ e ∈ entries, motive e.2) → motive (.object entries))
    (leaf : ∀ v, v.isContainer = false → motive v) :
    ∀ entries : List (Key × Value), ∀ e ∈ entries, motive e.2
  | [] => fun _ he => absurd he List.not_mem_nil
  | (_, v) :: rest => List.forall_mem_cons.mpr
      ⟨nestingInduction array object leaf v, entriesInduction array object leaf rest⟩
end

/-- A value stands in another one, at any depth. -/
inductive StandsIn (u : Value) : Value → Prop where
  /-- It is the other one. -/
  | self : StandsIn u u
  /-- It stands in an item of an array. -/
  | item {kind : ArrayKind} {items : List Value} {v : Value} (hv : v ∈ items)
    (h : StandsIn u v) : StandsIn u (.array kind items)
  /-- It stands in the value of an entry. -/
  | entry {entries : List (Key × Value)} {e : Key × Value} (he : e ∈ entries)
    (h : StandsIn u e.2) : StandsIn u (.object entries)

theorem standsIn_array_iff {u : Value} {kind : ArrayKind} {items : List Value} :
    StandsIn u (.array kind items) ↔ u = .array kind items ∨ ∃ v ∈ items, StandsIn u v := by
  constructor
  · intro h
    cases h with
    | self => exact .inl rfl
    | item hv h => exact .inr ⟨_, hv, h⟩
  · rintro (rfl | ⟨v, hv, h⟩)
    · exact .self
    · exact .item hv h

theorem standsIn_object_iff {u : Value} {entries : List (Key × Value)} :
    StandsIn u (.object entries) ↔ u = .object entries ∨ ∃ e ∈ entries, StandsIn u e.2 := by
  constructor
  · intro h
    cases h with
    | self => exact .inl rfl
    | entry he h => exact .inr ⟨_, he, h⟩
  · rintro (rfl | ⟨e, he, h⟩)
    · exact .self
    · exact .entry he h

theorem standsIn_leaf_iff {u v : Value} (hv : v.isContainer = false) : StandsIn u v ↔ u = v := by
  constructor
  · intro h
    cases h with
    | self => rfl
    | item => cases hv
    | entry => cases hv
  · rintro rfl
    exact .self

/-! ## Leaves -/

mutual
/-- The leaves of a value, from left to right. -/
def leaves : Value → List Value
  | .array _ items => leavesOfItems items
  | .object entries => leavesOfEntries entries
  | leaf => [leaf]

/-- The leaves of some values. -/
def leavesOfItems : List Value → List Value
  | [] => []
  | v :: rest => leaves v ++ leavesOfItems rest

/-- The leaves of the values of some entries. -/
def leavesOfEntries : List (Key × Value) → List Value
  | [] => []
  | (_, v) :: rest => leaves v ++ leavesOfEntries rest
end

theorem leavesOfItems_eq_flatMap (items : List Value) :
    leavesOfItems items = items.flatMap leaves := by
  induction items with
  | nil => rfl
  | cons v rest ih => rw [leavesOfItems, ih, List.flatMap_cons]

theorem leavesOfEntries_eq_flatMap (entries : List (Key × Value)) :
    leavesOfEntries entries = entries.flatMap fun e => e.2.leaves := by
  induction entries with
  | nil => rfl
  | cons e rest ih => rw [leavesOfEntries, ih, List.flatMap_cons]

theorem leaves_of_leaf {v : Value} (hv : v.isContainer = false) : v.leaves = [v] := by
  cases v <;> first | (cases hv; done) | rfl

/-- **The leaves are what stands in a value and is no inner node.** -/
theorem mem_leaves_iff {u v : Value} : u ∈ v.leaves ↔ StandsIn u v ∧ u.isContainer = false := by
  induction v using nestingInduction with
  | array kind items ih =>
      rw [leaves, leavesOfItems_eq_flatMap, List.mem_flatMap, standsIn_array_iff]
      constructor
      · rintro ⟨v, hv, hu⟩
        exact ⟨.inr ⟨v, hv, ((ih v hv).mp hu).1⟩, ((ih v hv).mp hu).2⟩
      · rintro ⟨rfl | ⟨v, hv, hu⟩, hleaf⟩
        · cases hleaf
        · exact ⟨v, hv, (ih v hv).mpr ⟨hu, hleaf⟩⟩
  | object entries ih =>
      rw [leaves, leavesOfEntries_eq_flatMap, List.mem_flatMap, standsIn_object_iff]
      constructor
      · rintro ⟨e, he, hu⟩
        exact ⟨.inr ⟨e, he, ((ih e he).mp hu).1⟩, ((ih e he).mp hu).2⟩
      · rintro ⟨rfl | ⟨e, he, hu⟩, hleaf⟩
        · cases hleaf
        · exact ⟨e, he, (ih e he).mpr ⟨hu, hleaf⟩⟩
  | leaf v hv =>
      rw [leaves_of_leaf hv, List.mem_singleton, standsIn_leaf_iff hv]
      exact ⟨fun h => ⟨h, h ▸ hv⟩, And.left⟩

/-! ## Copies -/

theorem copyItems_eq_map (items : List Value) : copyItems items = items.map copy := by
  induction items with
  | nil => rfl
  | cons v rest ih => rw [copyItems, ih, List.map_cons]

theorem copyEntries_eq_map (entries : List (Key × Value)) :
    copyEntries entries = entries.map fun e => (e.1, e.2.copy) := by
  induction entries with
  | nil => rfl
  | cons e rest ih => rw [copyEntries, ih, List.map_cons]

theorem copy_of_leaf {v : Value} (hv : v.isContainer = false) : v.copy = v := by
  cases v <;> first | (cases hv; done) | rfl

/-- **A copy is the same value.** -/
theorem copy_eq (v : Value) : v.copy = v := by
  induction v using nestingInduction with
  | array kind items ih =>
      rw [copy, copyItems_eq_map, List.map_congr_left ih, List.map_id']
  | object entries ih =>
      have hentries : ∀ e ∈ entries, (e.1, e.2.copy) = e := by
        intro e he
        rw [ih e he]
      rw [copy, copyEntries_eq_map, List.map_congr_left hentries, List.map_id']
  | leaf v hv => exact copy_of_leaf hv

/-! ## Maps -/

section Effects

variable {m : Type → Type} [Monad m] (f : Value → m Value)

/-- An entry with every leaf of its value replaced. -/
def mapEntryM (e : Key × Value) : m (Key × Value) := do return (e.1, ← mapLeavesM f e.2)

theorem mapLeavesM_of_leaf {v : Value} (hv : v.isContainer = false) : mapLeavesM f v = f v := by
  cases v <;> first | (cases hv; done) | rw [mapLeavesM] <;> simp

variable [LawfulMonad m]

theorem mapItemsM_eq_mapM (items : List Value) :
    mapItemsM f items = items.mapM (mapLeavesM f) := by
  induction items with
  | nil => rw [mapItemsM, List.mapM_nil]
  | cons v rest ih => rw [mapItemsM, ih, List.mapM_cons]

theorem mapEntriesM_eq_mapM (entries : List (Key × Value)) :
    mapEntriesM f entries = entries.mapM (mapEntryM f) := by
  induction entries with
  | nil => rw [mapEntriesM, List.mapM_nil]
  | cons e rest ih => rw [mapEntriesM, ih, List.mapM_cons, mapEntryM, bind_assoc]; simp

theorem mapLeavesM_array (kind : ArrayKind) (items : List Value) :
    mapLeavesM f (.array kind items) = Value.list <$> items.mapM (mapLeavesM f) := by
  rw [mapLeavesM, mapItemsM_eq_mapM, map_eq_pure_bind]
  rfl

theorem mapLeavesM_object (entries : List (Key × Value)) :
    mapLeavesM f (.object entries) = Value.object <$> entries.mapM (mapEntryM f) := by
  rw [mapLeavesM, mapEntriesM_eq_mapM, map_eq_pure_bind]

end Effects

theorem mapLeaves_of_leaf (f : Value → Value) {v : Value} (hv : v.isContainer = false) :
    v.mapLeaves f = f v :=
  mapLeavesM_of_leaf (m := Id) f hv

theorem mapLeaves_array (f : Value → Value) (kind : ArrayKind) (items : List Value) :
    (array kind items).mapLeaves f = .list (items.map (mapLeaves f)) := by
  have hpure : items.mapM (mapLeavesM (m := Id) f) = items.map (mapLeaves f) := List.mapM_pure
  show mapLeavesM (m := Id) f (.array kind items) = _
  rw [mapLeavesM_array, hpure]
  rfl

theorem mapLeaves_object (f : Value → Value) (entries : List (Key × Value)) :
    (object entries).mapLeaves f = .object (entries.map fun e => (e.1, e.2.mapLeaves f)) := by
  have hpure : entries.mapM (mapEntryM (m := Id) f) = entries.map fun e => (e.1, e.2.mapLeaves f) :=
    List.mapM_pure
  show mapLeavesM (m := Id) f (.object entries) = _
  rw [mapLeavesM_object, hpure]
  rfl

/-- The order does not see that leaves are replaced by themselves: of arrays it does not see the
kind. -/
theorem orderKey_mapLeaves (normalize : Text → Text) (v : Value) :
    (v.mapLeaves fun u => u).orderKey normalize = v.orderKey normalize := by
  induction v using nestingInduction with
  | array kind items ih =>
      rw [mapLeaves_array, list, orderKey, orderKey, orderKeys_eq_map, orderKeys_eq_map,
        List.map_map]
      exact congrArg OrderKey.array (List.map_congr_left ih)
  | object entries ih =>
      have hentries : ∀ e ∈ entries,
          (e.1.text, (e.2.mapLeaves fun u => u).orderKey normalize) =
            (e.1.text, e.2.orderKey normalize) := by
        intro e he
        rw [ih e he]
      rw [mapLeaves_object, orderKey, orderKey, fieldKeys_eq_map, fieldKeys_eq_map, List.map_map]
      exact congrArg (fun fields => OrderKey.object (sortFields fields))
        (List.map_congr_left hentries)
  | leaf v hv => rw [mapLeaves_of_leaf _ hv]

/-! ## What a function is applied to -/

/-- A function that notes what it is applied to, behind what is noted already. -/
def noted (f : Value → Value) (u : Value) : StateM (List Value) Value :=
  fun log => (f u, log ++ [u])

/-- What is noted for the elements of a list, one after the other. -/
theorem mapM_noted {α β : Type} {f : α → StateM (List Value) β} {g : α → β}
    {notes : α → List Value} {xs : List α} (h : ∀ x ∈ xs, f x = fun log => (g x, log ++ notes x)) :
    xs.mapM f = fun log => (xs.map g, log ++ xs.flatMap notes) := by
  induction xs with
  | nil =>
      funext log
      rw [List.flatMap_nil, List.append_nil]
      rfl
  | cons x xs ih =>
      funext log
      rw [List.mapM_cons, h x List.mem_cons_self, ih fun y hy => h y (List.mem_cons_of_mem x hy),
        List.flatMap_cons, ← List.append_assoc]
      rfl

/-- **What a function is applied to are the leaves**, each once and from left to right. -/
theorem mapLeavesM_noted (f : Value → Value) (v : Value) :
    mapLeavesM (noted f) v = fun log => (v.mapLeaves f, log ++ v.leaves) := by
  induction v using nestingInduction with
  | array kind items ih =>
      rw [mapLeavesM_array, mapM_noted ih, mapLeaves_array, leaves, leavesOfItems_eq_flatMap]
      rfl
  | object entries ih =>
      have hentries : ∀ e ∈ entries,
          mapEntryM (noted f) e = fun log => ((e.1, e.2.mapLeaves f), log ++ e.2.leaves) := by
        intro e he
        rw [mapEntryM, ih e he]
        rfl
      rw [mapLeavesM_object, mapM_noted hentries, mapLeaves_object, leaves,
        leavesOfEntries_eq_flatMap]
      rfl
  | leaf v hv => rw [mapLeavesM_of_leaf _ hv, mapLeaves_of_leaf _ hv, leaves_of_leaf hv]; rfl

/-! ## Mapping twice -/

/-- **Mapping twice is mapping once**, as long as the first function returns leaves, and where one
function fails the other way fails too. -/
theorem mapLeavesM_bind {f : Value → Option Value} (g : Value → Option Value)
    (hf : ∀ u w, f u = some w → w.isContainer = false) (v : Value) :
    (mapLeavesM f v).bind (mapLeavesM g) = mapLeavesM (fun u => (f u).bind g) v := by
  induction v using nestingInduction with
  | array kind items ih =>
      rw [mapLeavesM_array, mapLeavesM_array, ← mapM_bind_mapM ih]
      cases items.mapM (mapLeavesM f) with
      | none => rfl
      | some items => exact mapLeavesM_array g .list items
  | object entries ih =>
      have hentries : ∀ e ∈ entries,
          (mapEntryM f e).bind (mapEntryM g) = mapEntryM (fun u => (f u).bind g) e := by
        intro e he
        rw [mapEntryM, mapEntryM, ← ih e he]
        cases mapLeavesM f e.2 <;> rfl
      rw [mapLeavesM_object, mapLeavesM_object, ← mapM_bind_mapM hentries]
      cases entries.mapM (mapEntryM f) with
      | none => rfl
      | some entries => exact mapLeavesM_object g entries
  | leaf v hv =>
      rw [mapLeavesM_of_leaf f hv, mapLeavesM_of_leaf _ hv]
      cases hfv : f v with
      | none => rfl
      | some w => exact mapLeavesM_of_leaf g (hf v w hfv)

/-- Mapping twice is mapping once, where the functions cannot fail. -/
theorem mapLeaves_mapLeaves {f : Value → Value} (g : Value → Value)
    (hf : ∀ u, (f u).isContainer = false) (v : Value) :
    (v.mapLeaves f).mapLeaves g = v.mapLeaves fun u => g (f u) := by
  induction v using nestingInduction with
  | array kind items ih =>
      rw [mapLeaves_array, list, mapLeaves_array, mapLeaves_array, List.map_map]
      exact congrArg Value.list (List.map_congr_left ih)
  | object entries ih =>
      have hentries : ∀ e ∈ entries,
          (e.1, (e.2.mapLeaves f).mapLeaves g) = (e.1, e.2.mapLeaves fun u => g (f u)) := by
        intro e he
        rw [ih e he]
      rw [mapLeaves_object, mapLeaves_object, mapLeaves_object, List.map_map]
      exact congrArg Value.object (List.map_congr_left hentries)
  | leaf v hv => rw [mapLeaves_of_leaf f hv, mapLeaves_of_leaf _ hv, mapLeaves_of_leaf g (hf v)]

/-! ## The laws -/

/-- **Copies and maps keep the structure.** A copy has the kinds of all arrays and the keys of all
objects in their order, since it is the same value; so it compares as that does. A value with its
leaves replaced by themselves is equal to it in the order. Mapping with a function that returns
leaves and then with another one is mapping with the two one after the other, also where they can
fail. A function is applied to the leaves once each, from left to right, and these are the values
anywhere in it that are neither arrays nor objects; functions with entries are leaves. -/
theorem rebuilding_laws :
    (∀ v : Value, v.copy = v) ∧
    (∀ (normalize : Text → Text) (v w : Value), v.isComparable normalize →
      w.isComparable normalize → ∃ o, v.compareBy normalize w = .ok o ∧
        v.copy.compareBy normalize w = .ok o ∧
        (v.mapLeaves fun u => u).compareBy normalize w = .ok o) ∧
    (∀ v : Value, (v.isComparable fun path => path) →
      v.equals (v.mapLeaves fun u => u) = .ok true) ∧
    (∀ (f g : Value → Value) (v : Value), (∀ u, (f u).isContainer = false) →
      (v.mapLeaves f).mapLeaves g = v.mapLeaves fun u => g (f u)) ∧
    (∀ (f g : Value → Option Value) (v : Value),
      (∀ u w, f u = some w → w.isContainer = false) →
      (mapLeavesM f v).bind (mapLeavesM g) = mapLeavesM (fun u => (f u).bind g) v) ∧
    (∀ (f : Value → Value) (v : Value) (log : List Value),
      (mapLeavesM (noted f) v).run log = (v.mapLeaves f, log ++ v.leaves)) ∧
    (∀ u v : Value, u ∈ v.leaves ↔ StandsIn u v ∧ u.isContainer = false) ∧
    ∀ entries : List (Key × Value), (callable entries).leaves = [callable entries] := by
  refine ⟨copy_eq, ?_, ?_, ?_, ?_, ?_, ?_, ?_⟩
  · intro normalize v w hv hw
    have hcompare := compareBy_eq_order hv hw
    refine ⟨_, hcompare, ?_, ?_⟩
    · rw [copy_eq, hcompare]
    · rw [compareBy, orderKey_mapLeaves]
      exact hcompare
  · intro v hv
    have hcompare := (equals_eq_true_iff hv hv).mpr (OrderKey.order_eq_iff.mpr rfl)
    rw [equals, compare, compareBy] at hcompare ⊢
    rw [orderKey_mapLeaves]
    exact hcompare
  · exact fun f g v hf => mapLeaves_mapLeaves g hf v
  · exact fun f g v hf => mapLeavesM_bind g hf v
  · exact fun f v log => congrFun (mapLeavesM_noted f v) log
  · exact fun u v => mem_leaves_iff
  · exact fun entries => rfl

/-- An object with a tuple, a function with entries, and two keys of one text. -/
def mixedObject : Value :=
  object [(.string ['a'], array .tuple [int 2, list []]), (.number (.int 1), callable [(.null, null)]),
    (.string ['1'], list [string ['x'], bool true])]

/-- The name of the tag of a value, if it is no function. -/
def tagName? (v : Value) : Option Value :=
  if v.hasTag .function then none else some (.string ((v.tag?.map Tag.name).getD []))

/-- Copies and maps of a value with leaves of several kinds. -/
theorem rebuilding_laws_mixed :
    mixedObject.copy = mixedObject ∧
    (∃ o, mixedObject.compareBy (fun path => path) (list [mixedObject]) = .ok o ∧
      mixedObject.copy.compareBy (fun path => path) (list [mixedObject]) = .ok o ∧
      (mixedObject.mapLeaves fun u => u).compareBy (fun path => path) (list [mixedObject]) =
        .ok o) ∧
    mixedObject.equals (mixedObject.mapLeaves fun u => u) = .ok true ∧
    (mixedObject.mapLeaves fun u => .bool (u.hasTag .function)).mapLeaves (fun u => list [u]) =
      object [(.string ['a'], list [list [bool false], list []]),
        (.number (.int 1), list [bool true]),
        (.string ['1'], list [list [bool false], list [bool false]])] ∧
    (mapLeavesM tagName? mixedObject).bind (mapLeavesM fun u => some u) = none ∧
    (mapLeavesM (noted fun _ => null) mixedObject).run [] =
      (object [(.string ['a'], list [null, list []]), (.number (.int 1), null),
        (.string ['1'], list [null, null])],
        [int 2, callable [(.null, null)], string ['x'], bool true]) ∧
    callable [(.null, null)] ∈ mixedObject.leaves := by
  obtain ⟨hcopy, hcompare, hequal, hmaps, hfails, hnoted, hleaves, _⟩ := rebuilding_laws
  have hmixed : mixedObject.isComparable (fun path => path) = true := by decide +kernel
  have hother : (list [mixedObject]).isComparable (fun path => path) = true := by decide +kernel
  have hname : ∀ u w, tagName? u = some w → w.isContainer = false := by
    intro u w hw
    unfold tagName? at hw
    split at hw
    · cases hw
    · cases hw
      rfl
  refine ⟨hcopy _, hcompare _ _ _ hmixed hother, hequal _ hmixed, ?_, ?_, ?_, ?_⟩
  · rw [hmaps _ _ _ fun _ => rfl]
    rfl
  · rw [hfails _ _ _ hname]
    rfl
  · exact hnoted _ _ _
  · rw [hleaves]
    exact ⟨.entry (.tail _ (.head _)) .self, rfl⟩

end Value
end NoteVault
