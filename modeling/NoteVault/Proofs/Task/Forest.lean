import Mathlib.Data.List.Nodup
import NoteVault.Proofs.Task.Nest

/-!
# Nodes of a forest

In a forest, the nodes of which are all in different places, two nodes have nothing in common
below them unless one is below the other. So of some nodes of a forest those that stay have
nothing in common: listing each with everything below it lists every node that is given, or is
below a given one, exactly once.

## Main results

* `Forest.mem_or_mem_of_common` — nodes with something in common are above each other.
* `Forest.nestItems_eq_self` — no tree is met below another one, so all stay.
* `Forest.kept` — of some nodes, those that stay are a forest again.
* `Forest.mem_walkAll_nestItems` — and it has the nodes that are given and what is below them.
-/

namespace NoteVault

open TaskNode

/-- Trees whose nodes are all in different places. -/
def Forest (trees : List TaskNode) : Prop :=
  ((walkAll trees).map fun n => (n.path, n.line)).Nodup

namespace Forest

variable {trees items : List TaskNode} {n m d : TaskNode}

theorem nodup (h : Forest trees) : (walkAll trees).Nodup := List.Nodup.of_map _ h

/-- A node of a forest is known by its identifier. -/
theorem eq_of_id_eq (h : Forest trees) (hn : n ∈ walkAll trees) (hm : m ∈ walkAll trees)
    (hid : n.id = m.id) : n = m := by
  obtain ⟨hpath, hline⟩ := id_eq_iff.mp hid
  exact List.inj_on_of_nodup_map h hn hm (Prod.ext hpath hline)

/-- A node of a forest with what is below it is a forest. -/
theorem singleton (h : Forest trees) (hn : n ∈ walkAll trees) : Forest [n] := by
  obtain ⟨before, after, heq⟩ := exists_append_of_mem_walkAll hn
  unfold Forest at h ⊢
  rw [heq, List.map_append, List.map_append] at h
  rw [walkAll_cons, walkAll_nil, List.append_nil]
  exact (List.nodup_append.mp (List.nodup_append.mp h).2.1).1

/-- The nodes below a node of a forest are a forest. -/
theorem children (h : Forest trees) (hn : n ∈ walkAll trees) : Forest n.children := by
  have hsingle := h.singleton hn
  unfold Forest at hsingle
  rw [walkAll_cons, walkAll_nil, List.append_nil] at hsingle
  exact (List.nodup_cons.mp hsingle).2

theorem tail (h : Forest (n :: trees)) : Forest trees := by
  unfold Forest at h
  rw [walkAll_cons_eq_append, List.map_append] at h
  exact (List.nodup_append.mp h).2.1

/-- The first tree has nothing in common with the others. -/
theorem disjoint_head (h : Forest (n :: trees)) : (walkAll [n]).Disjoint (walkAll trees) := by
  have hnodup := h.nodup
  rw [walkAll_cons_eq_append] at hnodup
  exact List.disjoint_of_nodup_append hnodup

/-- **Nodes with something in common are above each other.** -/
theorem mem_or_mem_of_common (h : Forest trees) (hn : n ∈ walkAll trees) (hm : m ∈ walkAll trees)
    (hdn : d ∈ walkAll [n]) (hdm : d ∈ walkAll [m]) :
    n ∈ walkAll [m] ∨ m ∈ walkAll [n] := by
  induction trees using forestInduction with
  | nil => cases hn
  | cons tree rest ihBelow ihRest =>
      rw [walkAll_cons_eq_append, List.mem_append] at hn hm
      rcases hn with hn | hn <;> rcases hm with hm | hm
      · rcases mem_walkAll_singleton.mp hn with rfl | hn
        · exact Or.inr hm
        · rcases mem_walkAll_singleton.mp hm with rfl | hm
          · exact Or.inl (mem_walkAll_singleton.mpr (Or.inr hn))
          · exact ihBelow (h.children (mem_walkAll_self List.mem_cons_self)) hn hm
      · exact absurd (mem_walkAll_trans hm hdm) (h.disjoint_head (mem_walkAll_trans hn hdn))
      · exact absurd (mem_walkAll_trans hn hdn) (h.disjoint_head (mem_walkAll_trans hm hdm))
      · exact ihRest h.tail hn hm

/-- No tree of a forest is met below one of them. -/
theorem not_mem_below (h : Forest trees) (hn : n ∈ trees) (hm : m ∈ trees) :
    n ∉ walkAll m.children := by
  intro hbelow
  have hcommon : n ∈ walkAll [m] := mem_walkAll_singleton.mpr (Or.inr hbelow)
  induction trees with
  | nil => cases hn
  | cons tree rest ih =>
      rcases List.mem_cons.mp hn with hfirst | hlater <;>
        rcases List.mem_cons.mp hm with hfirst' | hlater'
      · rw [hfirst, hfirst'] at hbelow
        exact Nat.lt_irrefl _ (length_walkAll_children_lt hbelow)
      · rw [hfirst] at hcommon
        exact h.disjoint_head (mem_walkAll_self List.mem_cons_self)
          (mem_walkAll_trans (mem_walkAll_self hlater') hcommon)
      · rw [hfirst'] at hcommon
        exact h.disjoint_head hcommon (mem_walkAll_self hlater)
      · exact ih h.tail hlater hlater'

/-- **No tree of a forest is dropped.** -/
theorem nestItems_eq_self (h : Forest trees) : nestItems trees = trees := by
  rw [nestItems_eq_filter]
  refine List.filter_eq_self.mpr fun n hn => ?_
  rw [nestedIds_eq]
  simp only [List.contains_eq_mem, List.mem_map, Bool.not_eq_true', decide_eq_false_iff_not]
  rintro ⟨d, hd, hid⟩
  rw [h.eq_of_id_eq (mem_walkAll_of_mem_nodesBelow hd) (mem_walkAll_self hn) hid] at hd
  obtain ⟨m, hm, hbelow⟩ := mem_nodesBelow.mp hd
  rw [walk_eq] at hbelow
  exact h.not_mem_below hn hm hbelow

/-! ## Some nodes of a forest -/

/-- Nodes of a forest, none of which is below another, are a forest. -/
theorem of_apart (h : Forest trees) (hnodup : items.Nodup) (hsub : items ⊆ walkAll trees)
    (hapart : ∀ n ∈ items, ∀ m ∈ items, n ∉ walkAll m.children) : Forest items := by
  have hdistinct : (walkAll items).Nodup := by
    rw [walkAll_eq_flatMap, List.nodup_flatMap]
    refine ⟨fun n hn => (h.singleton (hsub hn)).nodup, ?_⟩
    refine hnodup.pairwise_of_forall_ne fun n hn m hm hne d hdn hdm => ?_
    -- what two of the nodes have in common would put one of them below the other
    rcases h.mem_or_mem_of_common (hsub hn) (hsub hm) hdn hdm with hmem | hmem
    · exact hapart n hn m hm ((mem_walkAll_singleton.mp hmem).resolve_left hne)
    · exact hapart m hm n hn ((mem_walkAll_singleton.mp hmem).resolve_left hne.symm)
  have hall := walkAll_subset hsub
  exact hdistinct.map_on fun n hn m hm hplace =>
    List.inj_on_of_nodup_map h (hall hn) (hall hm) hplace

/-- **Of some nodes of a forest, those that stay are a forest.** -/
theorem kept (h : Forest trees) (hnodup : items.Nodup) (hsub : items ⊆ walkAll trees) :
    Forest (nestItems items) := by
  have hkept := nestItems_sublist items
  have hsubset : nestItems items ⊆ walkAll trees := fun n hn => hsub (hkept.subset hn)
  refine h.of_apart (hnodup.sublist hkept) hsubset fun n hn m hm hbelow => ?_
  have hbelow : n ∈ m.walk := by rwa [walk_eq]
  exact (mem_nestItems.mp hn).2 n (mem_nodesBelow.mpr ⟨m, hkept.subset hm, hbelow⟩) rfl

/-- Nodes of a forest are of one snapshot. -/
theorem oneSnapshot (h : Forest trees) (hsub : items ⊆ walkAll trees) : OneSnapshot items := by
  intro n hn m hm hid
  rw [h.eq_of_id_eq (walkAll_subset hsub hn) (walkAll_subset hsub hm) hid]

/-- **From those that stay, all nodes are met that are given or are below a given one.** -/
theorem mem_walkAll_nestItems (h : Forest trees) (hsub : items ⊆ walkAll trees) :
    d ∈ walkAll (nestItems items) ↔ d ∈ walkAll items := by
  constructor
  · exact fun hd => walkAll_subset (fun n hn =>
      mem_walkAll_self ((nestItems_sublist items).subset hn)) hd
  · intro hd
    obtain ⟨n, hn, hdn⟩ := mem_walkAll.mp hd
    obtain ⟨r, hr, hsubset⟩ := (h.oneSnapshot hsub).exists_kept_above hn
    have hid : d.id ∈ (n :: n.walk).map TaskNode.id :=
      List.mem_map_of_mem (List.mem_cons.mpr (by rwa [walk_eq]))
    -- the node with the identifier of `d` that is met from `r` is `d`
    obtain ⟨k, hk, hkid⟩ := List.mem_map.mp (hsubset hid)
    rw [walk_eq, List.mem_cons] at hk
    have hmet : k ∈ walkAll (nestItems items) := mem_walkAll.mpr ⟨r, hr, hk⟩
    have hgiven : k ∈ walkAll items :=
      mem_walkAll.mpr ⟨r, (nestItems_sublist items).subset hr, hk⟩
    rw [← h.eq_of_id_eq (walkAll_subset hsub hgiven) (walkAll_subset hsub hd) hkid]
    exact hmet

end Forest

end NoteVault
