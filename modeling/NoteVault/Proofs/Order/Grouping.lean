import NoteVault.Proofs.Order.Sorting
import NoteVault.Value.Grouping

/-!
# Rows grouped by a key

Grouping sorts rows by their keys and cuts the sorted list wherever the key changes. A run is
compared with the next row through its first key only, and two runs that are not neighbours
are never compared. That each group still has all the rows with its key comes from the order:
in a sorted list equal keys stand side by side, so the runs are what a filter by the key finds.

The runs are found from the left, with one run open. Closing it is the step that matters: every
key behind it is greater, so the rows behind have no part in it, and it has no part in the
groups behind.

## Main results

* `RunsOf.cons` — a run in front of greater keys.
* `runsFrom_eq` — the runs of a sorted list.
* `groupBy_eq` — grouping gives the runs of the sorted rows.
* `groupBy_partitions` — the groups of rows with comparable keys.
-/

namespace NoteVault

open Value

section

variable {α : Type} {key : Value} {run pairs : List (Value × α)}
  {groups : List (Value × List α)}

/-! ## Runs -/

/-- The pairs whose key is equal to a value. -/
def pairsUnder (key : Value) (pairs : List (Value × α)) : List (Value × α) :=
  pairs.filter fun p => (key.literalKey.order p.1.literalKey).isEq

theorem pairsUnder_append (key : Value) (run pairs : List (Value × α)) :
    pairsUnder key (run ++ pairs) = pairsUnder key run ++ pairsUnder key pairs :=
  List.filter_append _ _

theorem pairsUnder_of_eq (h : ∀ p ∈ run, p.1.literalKey = key.literalKey) :
    pairsUnder key run = run := by
  refine List.filter_eq_self.mpr fun p hp => ?_
  rw [h p hp, OrderKey.order_eq_iff.mpr rfl]
  rfl

theorem pairsUnder_of_ne (h : ∀ p ∈ pairs, p.1.literalKey ≠ key.literalKey) :
    pairsUnder key pairs = [] := by
  refine List.filter_eq_nil_iff.mpr fun p hp heq => h p hp ?_
  exact (OrderKey.order_eq_iff.mp (Ordering.isEq_iff_eq_eq.mp heq)).symm

/-- Groups are what the pairs of a sorted list make: under each key that occurs, all its rows. -/
structure RunsOf (pairs : List (Value × α)) (groups : List (Value × List α)) : Prop where
  /-- The keys increase. -/
  increasing : groups.Pairwise fun g h => g.1.literalKey.order h.1.literalKey = .lt
  /-- A group has the rows with its key. -/
  rows : ∀ g ∈ groups, g.2 = (pairsUnder g.1 pairs).map (·.2)
  /-- Its key is that of its first row. -/
  first : ∀ g ∈ groups, (pairsUnder g.1 pairs).head?.map (·.1) = some g.1
  /-- The groups have the rows of the list one after the other. -/
  flatten : groups.flatMap (·.2) = pairs.map (·.2)

/-- The key of a group is the key of some pair. -/
theorem RunsOf.exists_pair (h : RunsOf pairs groups) {g : Value × List α} (hg : g ∈ groups) :
    ∃ p ∈ pairs, p.1 = g.1 := by
  obtain ⟨p, hp, hkey⟩ := Option.map_eq_some_iff.mp (h.first g hg)
  exact ⟨p, (List.mem_filter.mp (List.mem_of_mem_head? hp)).1, hkey⟩

/-- One run is the group of its key. -/
theorem runsOf_singleton (hrun : ∀ p ∈ run, p.1.literalKey = key.literalKey)
    (hfirst : run.head?.map (·.1) = some key) : RunsOf run [(key, run.map (·.2))] where
  increasing := List.pairwise_singleton _ _
  rows g hg := by rw [List.mem_singleton.mp hg, pairsUnder_of_eq hrun]
  first g hg := by rw [List.mem_singleton.mp hg, pairsUnder_of_eq hrun, hfirst]
  flatten := by simp

/-- **A run in front of greater keys** is a group of its own. -/
theorem RunsOf.cons (h : RunsOf pairs groups) (hrun : ∀ p ∈ run, p.1.literalKey = key.literalKey)
    (hfirst : run.head?.map (·.1) = some key)
    (hgreater : ∀ p ∈ pairs, key.literalKey.order p.1.literalKey = .lt) :
    RunsOf (run ++ pairs) ((key, run.map (·.2)) :: groups) := by
  have hgroups : ∀ g ∈ groups, key.literalKey.order g.1.literalKey = .lt := by
    intro g hg
    obtain ⟨p, hp, hkey⟩ := h.exists_pair hg
    rw [← hkey]
    exact hgreater p hp
  have hbehind : pairsUnder key (run ++ pairs) = run := by
    rw [pairsUnder_append, pairsUnder_of_eq hrun, pairsUnder_of_ne, List.append_nil]
    intro p hp heq
    have hlt := hgreater p hp
    rw [heq, OrderKey.order_eq_iff.mpr rfl] at hlt
    cases hlt
  have hfront : ∀ g ∈ groups, pairsUnder g.1 (run ++ pairs) = pairsUnder g.1 pairs := by
    intro g hg
    rw [pairsUnder_append, pairsUnder_of_ne, List.nil_append]
    intro p hp heq
    have hlt := hgroups g hg
    rw [← heq, hrun p hp, OrderKey.order_eq_iff.mpr rfl] at hlt
    cases hlt
  constructor
  · exact List.pairwise_cons.mpr ⟨hgroups, h.increasing⟩
  · intro g hg
    rcases List.mem_cons.mp hg with rfl | hg
    · rw [hbehind]
    · rw [hfront g hg, h.rows g hg]
  · intro g hg
    rcases List.mem_cons.mp hg with rfl | hg
    · rw [hbehind, hfirst]
    · rw [hfront g hg, h.first g hg]
  · rw [List.flatMap_cons, h.flatten, List.map_append]

theorem runsFrom_of_eq {rows : List α} {next : Value × α}
    (h : key.compare next.1 = .ok .eq) :
    runsFrom key rows (next :: pairs) = runsFrom key (rows ++ [next.2]) pairs := by
  rw [runsFrom, h]
  rfl

theorem runsFrom_of_lt {rows : List α} {next : Value × α} (h : key.compare next.1 = .ok .lt)
    (hgroups : runsFrom next.1 [next.2] pairs = .ok groups) :
    runsFrom key rows (next :: pairs) = .ok ((key, rows) :: groups) := by
  rw [runsFrom, h, hgroups]
  rfl

/-- **The runs of a sorted list** of pairs with comparable keys, the first run being open. -/
theorem runsFrom_eq (hrun : ∀ p ∈ run, p.1.literalKey = key.literalKey)
    (hfirst : run.head?.map (·.1) = some key)
    (hsorted : (run ++ pairs).Pairwise fun p q => (keyOrder p q).isLE)
    (hkeys : ∀ p ∈ run ++ pairs, p.1.isComparable fun path => path) :
    ∃ groups, runsFrom key (run.map (·.2)) pairs = .ok groups ∧ RunsOf (run ++ pairs) groups := by
  induction pairs generalizing key run with
  | nil =>
      refine ⟨_, rfl, ?_⟩
      rw [List.append_nil]
      exact runsOf_singleton hrun hfirst
  | cons next rest ih =>
      obtain ⟨opener, hhead, hopener⟩ := Option.map_eq_some_iff.mp hfirst
      have hmem : opener ∈ run := List.mem_of_mem_head? hhead
      have hcompare : key.compare next.1 = .ok (key.literalKey.order next.1.literalKey) := by
        refine compare_eq_order ?_ (hkeys next (by simp))
        rw [← hopener]
        exact hkeys opener (by simp [hmem])
      have hle : (key.literalKey.order next.1.literalKey).isLE := by
        rw [← hopener]
        exact (List.pairwise_append.mp hsorted).2.2 opener hmem next List.mem_cons_self
      cases horder : key.literalKey.order next.1.literalKey with
      | gt => rw [horder] at hle; cases hle
      | eq =>
          -- the row goes into the open run
          rw [horder] at hcompare
          have happend : run ++ next :: rest = run ++ [next] ++ rest := by simp
          have hnext : next.1.literalKey = key.literalKey := (OrderKey.order_eq_iff.mp horder).symm
          have hrun' : ∀ p ∈ run ++ [next], p.1.literalKey = key.literalKey := by
            intro p hp
            rcases List.mem_append.mp hp with hp | hp
            · exact hrun p hp
            · rw [List.mem_singleton.mp hp, hnext]
          have hfirst' : (run ++ [next]).head?.map (·.1) = some key := by
            rw [List.head?_append, hhead, Option.some_or, Option.map_some, hopener]
          rw [happend] at hsorted hkeys ⊢
          obtain ⟨groups, hgroups, hruns⟩ := ih hrun' hfirst' hsorted hkeys
          rw [List.map_append] at hgroups
          exact ⟨groups, (runsFrom_of_eq hcompare).trans hgroups, hruns⟩
      | lt =>
          -- the row opens a run of its own, and every key from it on is greater
          rw [horder] at hcompare
          have hrest : (next :: rest).Pairwise fun p q => (keyOrder p q).isLE :=
            (List.pairwise_append.mp hsorted).2.1
          have hrun' : ∀ p ∈ [next], p.1.literalKey = next.1.literalKey := by simp
          have hfirst' : [next].head?.map (·.1) = some next.1 := rfl
          obtain ⟨groups, hgroups, hruns⟩ := ih hrun' hfirst' hrest fun p hp =>
            hkeys p (List.mem_append_right _ hp)
          have hgreater : ∀ p ∈ next :: rest, key.literalKey.order p.1.literalKey = .lt := by
            intro p hp
            rcases List.mem_cons.mp hp with rfl | hp
            · exact horder
            · exact Std.TransCmp.lt_of_lt_of_isLE horder (List.rel_of_pairwise_cons hrest hp)
          exact ⟨_, runsFrom_of_lt hcompare hgroups, hruns.cons hrun hfirst hgreater⟩

/-- **The runs of a sorted list** of pairs with comparable keys. -/
theorem runs_eq (hsorted : pairs.Pairwise fun p q => (keyOrder p q).isLE)
    (hkeys : ∀ p ∈ pairs, p.1.isComparable fun path => path) :
    ∃ groups, runs pairs = .ok groups ∧ RunsOf pairs groups := by
  cases pairs with
  | nil => exact ⟨[], rfl, List.Pairwise.nil, nofun, nofun, rfl⟩
  | cons first rest =>
      have hrun : ∀ p ∈ [first], p.1.literalKey = first.1.literalKey := by simp
      have hfirst : [first].head?.map (·.1) = some first.1 := rfl
      exact runsFrom_eq hrun hfirst hsorted hkeys

end

/-! ## Groups -/

/-- Groups of rows by a key: each row is in the one group whose key is equal to its own. -/
structure Partitions {α : Type} (key : α → Value) (rows : List α)
    (groups : List (Value × List α)) : Prop where
  /-- The keys of the groups increase. -/
  increasing : groups.Pairwise fun g h => g.1.compare h.1 = .ok .lt
  /-- No group is empty. -/
  ne_nil : ∀ g ∈ groups, g.2 ≠ []
  /-- The key of a row is equal to the key of its group. -/
  key_eq : ∀ g ∈ groups, ∀ row ∈ g.2, (key row).compare g.1 = .ok .eq
  /-- Rows are in the same group exactly if their keys are equal. -/
  together_iff : ∀ a ∈ rows, ∀ b ∈ rows,
    (∃ g ∈ groups, a ∈ g.2 ∧ b ∈ g.2) ↔ (key a).compare (key b) = .ok .eq
  /-- A group has all rows with its key, as they stand in the list. -/
  rows_eq : ∀ g ∈ groups, g.2 = rows.filter fun row => ((key row).compare g.1).toOption == some .eq
  /-- So the rows of a group are in the order of the list. -/
  sublist : ∀ g ∈ groups, g.2.Sublist rows
  /-- The key of a group is the key of its first row. -/
  first : ∀ g ∈ groups, g.2.head?.map key = some g.1
  /-- The groups together have the rows of the list, each as often as the list has it. -/
  perm : (groups.flatMap (·.2)).Perm rows

section

variable {α : Type} {key : α → Value} {rows : List α} {sorted : List (Value × α)}
  {groups : List (Value × List α)}

/-- Rows with the keys they are grouped by. -/
def keyed (key : α → Value) (rows : List α) : List (Value × α) := rows.map fun row => (key row, row)

/-- **The runs of the sorted rows are what a filter of the rows finds.** -/
theorem SortedForm.rows_eq (hsorted : SortedForm keyOrder (keyed key rows) sorted)
    (hruns : RunsOf sorted groups) {g : Value × List α} (hg : g ∈ groups) :
    g.2 = rows.filter fun row => (g.1.literalKey.order (key row).literalKey).isEq := by
  obtain ⟨p, _, hkey⟩ := hruns.exists_pair hg
  have hstable : pairsUnder p.1 sorted = pairsUnder p.1 (keyed key rows) := hsorted.stable p
  rw [hruns.rows g hg, ← hkey, hstable]
  unfold pairsUnder keyed
  rw [List.filter_map, List.map_map]
  exact List.map_id _

/-- The first row of a group has its key. -/
theorem SortedForm.first_eq (hsorted : SortedForm keyOrder (keyed key rows) sorted)
    (hruns : RunsOf sorted groups) {g : Value × List α} (hg : g ∈ groups) :
    g.2.head?.map key = some g.1 := by
  obtain ⟨p, hp, hfirst⟩ := Option.map_eq_some_iff.mp (hruns.first g hg)
  have hmem : p ∈ keyed key rows :=
    hsorted.perm.mem_iff.mp (List.mem_filter.mp (List.mem_of_mem_head? hp)).1
  obtain ⟨row, _, rfl⟩ := List.mem_map.mp hmem
  rw [hruns.rows g hg, List.head?_map, hp]
  exact congrArg some hfirst

theorem groupPairs_eq {pairs : List (Value × α)} (hsort : sortedByKey pairs = .ok sorted)
    (hgroups : runs sorted = .ok groups) :
    groupPairs pairs = .ok (.grouped (groups.map fun g => (g.1, .flat g.2))) := by
  simp only [groupPairs, hsort, hgroups, Bind.bind, Except.bind, Pure.pure, Except.pure]

/-- **Grouping gives the runs of the sorted rows.** -/
theorem groupBy_eq (hkeys : ∀ row ∈ rows, (key row).isComparable fun path => path) :
    ∃ (sorted : List (Value × α)) (groups : List (Value × List α)),
      groupBy key rows = .ok (.grouped (groups.map fun g => (g.1, .flat g.2))) ∧
        SortedForm keyOrder (keyed key rows) sorted ∧ RunsOf sorted groups := by
  have hpairs : ∀ p ∈ keyed key rows, p.1.isComparable fun path => path := by
    intro p hp
    obtain ⟨row, hrow, rfl⟩ := List.mem_map.mp hp
    exact hkeys row hrow
  obtain ⟨sorted, hsort, hsorted⟩ := sortedByKey_eq hpairs
  obtain ⟨groups, hgroups, hruns⟩ := runs_eq hsorted.increasing fun p hp =>
    hpairs p (hsorted.perm.mem_iff.mp hp)
  exact ⟨sorted, groups, groupPairs_eq hsort hgroups, hsorted, hruns⟩

/-- The rows of a group are those whose key is equal to its own. -/
theorem SortedForm.mem_rows (hsorted : SortedForm keyOrder (keyed key rows) sorted)
    (hruns : RunsOf sorted groups) {g : Value × List α} (hg : g ∈ groups) (row : α) :
    row ∈ g.2 ↔ row ∈ rows ∧ (key row).literalKey = g.1.literalKey := by
  rw [hsorted.rows_eq hruns hg, List.mem_filter, Ordering.isEq_iff_eq_eq, OrderKey.order_eq_iff]
  exact and_congr_right fun _ => eq_comm

/-- Every row is in the group of its key. -/
theorem SortedForm.exists_group (hsorted : SortedForm keyOrder (keyed key rows) sorted)
    (hruns : RunsOf sorted groups) {row : α} (hrow : row ∈ rows) :
    ∃ g ∈ groups, row ∈ g.2 := by
  have hmem : (key row, row) ∈ sorted :=
    hsorted.perm.mem_iff.mpr (List.mem_map_of_mem (f := fun row => (key row, row)) hrow)
  have hflat : row ∈ groups.flatMap (·.2) := by
    rw [hruns.flatten]
    exact List.mem_map_of_mem (f := (·.2)) hmem
  exact List.mem_flatMap.mp hflat

/-- **The runs of the sorted rows partition the rows.** -/
theorem SortedForm.partitions (hkeys : ∀ row ∈ rows, (key row).isComparable fun path => path)
    (hsorted : SortedForm keyOrder (keyed key rows) sorted) (hruns : RunsOf sorted groups) :
    Partitions key rows groups := by
  have hfirst : ∀ g ∈ groups, g.2.head?.map key = some g.1 := fun g hg =>
    hsorted.first_eq hruns hg
  have hgroupKeys : ∀ g ∈ groups, g.1.isComparable fun path => path := by
    intro g hg
    obtain ⟨row, hrow, hkey⟩ := Option.map_eq_some_iff.mp (hfirst g hg)
    rw [← hkey]
    exact hkeys row ((hsorted.mem_rows hruns hg row).mp (List.mem_of_mem_head? hrow)).1
  have hcompare : ∀ g ∈ groups, ∀ row ∈ rows,
      (key row).compare g.1 = .ok ((key row).literalKey.order g.1.literalKey) :=
    fun g hg row hrow => compare_eq_order (hkeys row hrow) (hgroupKeys g hg)
  have hrows : ∀ g ∈ groups,
      g.2 = rows.filter fun row => ((key row).compare g.1).toOption == some .eq := by
    intro g hg
    rw [hsorted.rows_eq hruns hg]
    refine List.filter_congr fun row hrow => ?_
    rw [hcompare g hg row hrow, OrderKey.order_swap]
    cases (key row).literalKey.order g.1.literalKey <;> rfl
  constructor
  · refine hruns.increasing.imp_of_mem fun {g h} hg hh hlt => ?_
    rw [compare_eq_order (hgroupKeys g hg) (hgroupKeys h hh), hlt]
  · intro g hg hnil
    have hnone := hfirst g hg
    rw [hnil] at hnone
    cases hnone
  · intro g hg row hrow
    obtain ⟨hmem, hkey⟩ := (hsorted.mem_rows hruns hg row).mp hrow
    rw [hcompare g hg row hmem, OrderKey.order_eq_iff.mpr hkey]
  · intro a ha b hb
    rw [compare_eq_order (hkeys a ha) (hkeys b hb), Except.ok.injEq, OrderKey.order_eq_iff]
    constructor
    · rintro ⟨g, hg, hag, hbg⟩
      exact ((hsorted.mem_rows hruns hg a).mp hag).2.trans
        ((hsorted.mem_rows hruns hg b).mp hbg).2.symm
    · intro hkey
      obtain ⟨g, hg, hag⟩ := hsorted.exists_group hruns ha
      have hkeyG := ((hsorted.mem_rows hruns hg a).mp hag).2
      exact ⟨g, hg, hag, (hsorted.mem_rows hruns hg b).mpr ⟨hb, hkey.symm.trans hkeyG⟩⟩
  · exact hrows
  · intro g hg
    rw [hrows g hg]
    exact List.filter_sublist
  · exact hfirst
  · have hperm := hsorted.perm.map (·.2)
    rw [← hruns.flatten] at hperm
    unfold keyed at hperm
    rw [List.map_map] at hperm
    exact hperm.trans (List.Perm.of_eq (List.map_id rows))

/-- **Grouping partitions its rows.** If all keys are comparable, grouping is not refused, and
its groups are those of the rows by their keys. -/
theorem groupBy_partitions (key : α → Value) (rows : List α)
    (hkeys : ∀ row ∈ rows, (key row).isComparable fun path => path) :
    ∃ groups : List (Value × List α),
      groupBy key rows = .ok (.grouped (groups.map fun g => (g.1, .flat g.2))) ∧
        Partitions key rows groups := by
  obtain ⟨sorted, groups, hgroups, hsorted, hruns⟩ := groupBy_eq hkeys
  exact ⟨groups, hgroups, hsorted.partitions hkeys hruns⟩

/-- Rows that are their own keys: zero as an integer and as a negative float, a text, null twice,
and two arrays that differ in kind. -/
def mixedRows : List Value :=
  [.null, .string ['b'], .number (.int 0), .array .tuple [.null],
    .number (.float (.finite true .zero)), .null, .array .list [.null]]

theorem groupBy_partitions_mixed :
    (∀ row ∈ mixedRows, row.isComparable fun path => path) ∧
      ∃ groups : List (Value × List Value),
        groupBy (fun row => row) mixedRows =
            .ok (.grouped (groups.map fun g => (g.1, .flat g.2))) ∧
          Partitions (fun row => row) mixedRows groups := by
  have hkeys : ∀ row ∈ mixedRows, row.isComparable fun path => path := by decide +kernel
  exact ⟨hkeys, groupBy_partitions (fun row => row) mixedRows hkeys⟩

end

end NoteVault
