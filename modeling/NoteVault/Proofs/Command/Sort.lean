import NoteVault.Command.Sort
import NoteVault.Proofs.Order.Grouping
import NoteVault.Proofs.Order.TotalPreorder

/-!
# Pages sorted and grouped

Pages are sorted by one field and grouped by another. Both sort, and the second sorting must not
undo the first: it keeps pages with equal keys as they stand, and so a group is what a filter by
its key finds in the list that was sorted first. That the list may be turned round in between
plays no role, since grouping only asks how the pages stand.

What the first sorting does is said without it. There is one list that has the same pages, in
the order of the field, those with equal values as they were found; the pages without the field
are at the end of it, as null comes after everything.

## Main results

* `SortedForm.exists_of_keyed` — rows sorted as pairs with their keys.
* `sortPages_eq` — pages are sorted, or sorted and turned round.
* `SortedForm.arranges`, `Arranges.unique` — the order of a field, and that there is one only.
* `arrangePages_composes` — the two sortings together.
-/

namespace NoteVault

open Value

/-! ## Keyed rows -/

section

variable {α : Type} {key : α → Value} {rows : List α} {sorted : List (Value × α)}

theorem map_snd_keyed (key : α → Value) (rows : List α) : (keyed key rows).map (·.2) = rows := by
  unfold keyed
  rw [List.map_map]
  exact List.map_id rows

theorem filter_keyed (key : α → Value) (rows : List α) (p : Value × α → Bool) :
    ((keyed key rows).filter p).map (·.2) = rows.filter fun row => p (key row, row) := by
  unfold keyed
  rw [List.filter_map, List.map_map]
  exact List.map_id _

/-- **Rows sorted as pairs with their keys** are rows sorted by their keys. -/
theorem SortedForm.exists_of_keyed (h : SortedForm keyOrder (keyed key rows) sorted) :
    ∃ ordered, sorted = keyed key ordered ∧
      SortedForm (fun a b => (key a).literalKey.order (key b).literalKey) rows ordered := by
  have hkeyed : sorted = keyed key (sorted.map (·.2)) := by
    unfold keyed
    rw [List.map_map]
    refine (List.map_id sorted).symm.trans (List.map_congr_left fun p hp => ?_)
    obtain ⟨row, _, rfl⟩ := List.mem_map.mp (h.perm.mem_iff.mp hp)
    rfl
  refine ⟨sorted.map (·.2), hkeyed, ?_, ?_, fun a => ?_⟩
  · have hperm := h.perm.map (·.2)
    rwa [map_snd_keyed] at hperm
  · have hincreasing := h.increasing
    rw [hkeyed] at hincreasing
    exact List.pairwise_map.mp hincreasing
  · have hstable := congrArg (List.map (·.2)) (h.stable (key a, a))
    rw [hkeyed, filter_keyed, filter_keyed] at hstable
    exact hstable

end

/-- A list in which everything with a property stands behind everything without it. -/
theorem eq_filter_append_filter {α : Type} {xs : List α} (p : α → Bool)
    (h : xs.Pairwise fun a b => p a → p b) :
    xs = xs.filter (fun a => !p a) ++ xs.filter p := by
  induction xs with
  | nil => rfl
  | cons a rest ih =>
      cases ha : p a with
      | false =>
          rw [List.filter_cons_of_pos (by rw [ha]; rfl), List.filter_cons_of_neg (by simp [ha]),
            List.cons_append, ← ih h.of_cons]
      | true =>
          have hrest : ∀ b ∈ rest, p b := fun b hb => List.rel_of_pairwise_cons h hb ha
          rw [List.filter_cons_of_neg (by simp [ha]), List.filter_cons_of_pos ha,
            List.filter_eq_nil_iff.mpr fun b hb => by simp [hrest b hb],
            List.filter_eq_self.mpr hrest, List.nil_append]

/-! ## The order of a field -/

/-- Whether two pages have equal values of a field. -/
def Page.agrees (field : Text) (p q : Page) : Bool :=
  ((p.get field).compare (q.get field)).toOption == some .eq

/-- Whether a page has no value of a field. -/
def Page.lacks (field : Text) (p : Page) : Bool := (p.get field).hasTag .null

/-- `ordered` has the pages of `pages` in the order of a field. -/
structure Arranges (field : Text) (pages ordered : List Page) : Prop where
  /-- No page is lost and none is added. -/
  perm : ordered.Perm pages
  /-- The values of the field do not decrease. -/
  increasing : ordered.Pairwise fun p q => NotAfter (fun path => path) (p.get field) (q.get field)
  /-- Pages with equal values stand as they were found. -/
  stable : ∀ p ∈ pages, ordered.filter (p.agrees field) = pages.filter (p.agrees field)
  /-- Pages without the field come last, as they were found. -/
  missing_last : ordered =
    (ordered.filter fun p => !p.lacks field) ++ pages.filter fun p => p.lacks field

/-- The order of the keys of pages. -/
abbrev fieldOrder (field : Text) (p q : Page) : Ordering :=
  (p.get field).literalKey.order (q.get field).literalKey

instance instTransCmpFieldOrder (field : Text) : Std.TransCmp (fieldOrder field) where
  eq_swap {_ _} := OrderKey.order_swap _ _
  isLE_trans {_ _ _} hab hbc := OrderKey.instTransCmpOrder.isLE_trans hab hbc

section

variable {field : Text} {pages ordered : List Page} {p q : Page}

theorem Page.agrees_eq (hp : (p.get field).isComparable fun path => path)
    (hq : (q.get field).isComparable fun path => path) :
    p.agrees field q = (fieldOrder field p q).isEq := by
  unfold agrees fieldOrder
  rw [compare_eq_order hp hq]
  cases (p.get field).literalKey.order (q.get field).literalKey <;> rfl

theorem Page.lacks_iff : p.lacks field ↔ p.get field = .null := by
  rw [lacks, hasTag, decide_eq_true_iff, tag?_eq_null_iff]

/-- The pages equal to one without the field are those without it. -/
theorem Page.isEq_fieldOrder_of_lacks (hp : p.lacks field) :
    (fieldOrder field p q).isEq = q.lacks field := by
  rw [lacks_iff] at hp
  rw [Bool.eq_iff_iff, Ordering.isEq_iff_eq_eq, OrderKey.order_eq_iff, lacks_iff, hp]
  constructor
  · intro hkey
    have htag := congrArg OrderKey.tag? hkey
    rw [tag?_orderKey, tag?_orderKey] at htag
    exact tag?_eq_null_iff.mp htag.symm
  · intro hq
    rw [hq]

/-- Behind a page without the field no page has it. -/
theorem lacks_of_notAfter (hq : (q.get field).isComparable fun path => path)
    (h : NotAfter (fun path => path) (p.get field) (q.get field)) (hp : p.lacks field) :
    q.lacks field := by
  rw [Page.lacks_iff] at hp ⊢
  by_contra hne
  obtain ⟨o, ho, hgt⟩ := h
  rw [hp, compareBy_null hq hne] at ho
  exact hgt (Except.ok.inj ho).symm

section

variable (hkeys : ∀ p ∈ pages, (p.get field).isComparable fun path => path)
include hkeys

/-- **The sorted form of the pages is in the order of the field.** -/
theorem SortedForm.arranges (h : SortedForm (fieldOrder field) pages ordered) :
    Arranges field pages ordered := by
  have hordered : ∀ p ∈ ordered, (p.get field).isComparable fun path => path :=
    fun p hp => hkeys p (h.perm.mem_iff.mp hp)
  have hincreasing : ordered.Pairwise fun p q =>
      NotAfter (fun path => path) (p.get field) (q.get field) :=
    h.increasing.imp_of_mem fun {p q} hp hq hle =>
      (notAfter_iff (hordered p hp) (hordered q hq)).mpr hle
  refine ⟨h.perm, hincreasing, fun p hp => ?_, ?_⟩
  · rw [List.filter_congr fun q hq => Page.agrees_eq (hkeys p hp) (hordered q hq), h.stable p,
      List.filter_congr fun q hq => Page.agrees_eq (hkeys p hp) (hkeys q hq)]
  · have hmissing : ordered.filter (Page.lacks field) = pages.filter (Page.lacks field) := by
      by_cases hsome : ∃ p : Page, p.lacks field
      · obtain ⟨p, hp⟩ := hsome
        have hstable := h.stable p
        simpa only [Page.isEq_fieldOrder_of_lacks hp] using hstable
      · rw [not_exists] at hsome
        rw [List.filter_eq_nil_iff.mpr fun p _ => hsome p,
          List.filter_eq_nil_iff.mpr fun p _ => hsome p]
    rw [← hmissing]
    exact eq_filter_append_filter (Page.lacks field) <| hincreasing.imp_of_mem
      fun {p q} _ hq hle => lacks_of_notAfter (hordered q hq) hle

theorem Arranges.isLE (h : Arranges field pages ordered) :
    ordered.Pairwise fun p q => (fieldOrder field p q).isLE :=
  h.increasing.imp_of_mem fun {p q} hp hq hle =>
    (notAfter_iff (hkeys p (h.perm.mem_iff.mp hp)) (hkeys q (h.perm.mem_iff.mp hq))).mp hle

/-- **Only one list has the pages in the order of the field.** -/
theorem Arranges.unique {other : List Page} (h : Arranges field pages ordered)
    (h' : Arranges field pages other) : other = ordered := by
  refine eq_of_perm_of_filter_eq (h'.perm.trans h.perm.symm) (h'.isLE hkeys) (h.isLE hkeys)
    fun p hp => ?_
  have hp : p ∈ pages := h'.perm.mem_iff.mp hp
  have hagrees : ∀ list : List Page, list.Perm pages →
      (list.filter fun q => (fieldOrder field p q).isEq) = list.filter (p.agrees field) :=
    fun list hperm => List.filter_congr fun q hq =>
      (Page.agrees_eq (hkeys p hp) (hkeys q (hperm.mem_iff.mp hq))).symm
  rw [hagrees other h'.perm, hagrees ordered h.perm, h.stable p hp, h'.stable p hp]

/-- **Pages are sorted, or sorted and turned round.** -/
theorem sortPages_eq : ∃ ordered, Arranges field pages ordered ∧
    ∀ descending, sortPages field descending pages =
      .ok (if descending then ordered.reverse else ordered) := by
  have hpairs : ∀ pair ∈ keyed (fun p : Page => p.get field) pages,
      pair.1.isComparable fun path => path := by
    intro pair hpair
    obtain ⟨p, hp, rfl⟩ := List.mem_map.mp hpair
    exact hkeys p hp
  obtain ⟨sorted, hsort, hsorted⟩ := sortedByKey_eq hpairs
  obtain ⟨ordered, rfl, hform⟩ := hsorted.exists_of_keyed
  refine ⟨ordered, hform.arranges hkeys, fun descending => ?_⟩
  unfold keyed at hsort
  rw [sortPages, hsort]
  exact congrArg (fun list : List Page =>
    (.ok (if descending then list.reverse else list) : Except OrderError (List Page)))
    (map_snd_keyed (fun p : Page => p.get field) ordered)

end

end

/-! ## The command -/

/-- Whether a page may stand in front of another one in the order that a request asks for. -/
def SortRequest.allows (r : SortRequest) (p q : Page) : Prop :=
  if r.descending then NotAfter (fun path => path) (q.get r.field) (p.get r.field)
  else NotAfter (fun path => path) (p.get r.field) (q.get r.field)

/-- The pages as a request shows them, `ordered` having them in the order of its field. -/
def SortRequest.directed (r : SortRequest) (ordered : List Page) : List Page :=
  if r.descending then ordered.reverse else ordered

/-- What becomes of the pages of a vault, `ordered` having them in the order of the field. -/
structure SortResult (r : SortRequest) (pages ordered : List Page) : Prop where
  /-- Forwards the pages are in the order of the field. -/
  ascending : sortPages r.field false pages = .ok ordered
  /-- Backwards they are in the reverse order. -/
  descending : sortPages r.field true pages = .ok ordered.reverse
  /-- That order is the stable one. -/
  arranges : Arranges r.field pages ordered
  /-- There is no other one. -/
  unique : ∀ other, Arranges r.field pages other → other = ordered
  /-- If no field is named for groups, the pages are shown as they are ordered. -/
  flat : r.groupField.getD [] = [] → arrangePages r pages = .ok (.flat (r.directed ordered))
  /-- If one is named, the pages as they are ordered are partitioned by it, and the pages of a
  group are still in the order asked for. -/
  grouped : ∀ name, r.groupField = some name → name ≠ [] → ∃ groups : List (Value × List Page),
    arrangePages r pages = .ok (.grouped (groups.map fun g => (g.1, .flat g.2))) ∧
      Partitions (fun p => p.get name) (r.directed ordered) groups ∧
      ∀ g ∈ groups, g.2.Pairwise r.allows
  /-- What is shown of the pages of a vault is this. -/
  shown : ∀ tree root settings arranged, pages ≠ [] → loadPages tree root = pages →
    Settings.load tree root = .ok settings → arrangePages r pages = .ok arranged →
    runSort tree root r = reportPieces (showPages settings r arranged)

section

variable {r : SortRequest} {pages ordered : List Page}

theorem Arranges.allows_directed (h : Arranges r.field pages ordered) :
    (r.directed ordered).Pairwise r.allows := by
  unfold SortRequest.directed SortRequest.allows
  cases r.descending with
  | false => exact h.increasing
  | true => exact List.pairwise_reverse.mpr h.increasing

theorem Arranges.perm_directed (h : Arranges r.field pages ordered) :
    (r.directed ordered).Perm pages := by
  unfold SortRequest.directed
  split
  · exact (List.reverse_perm ordered).trans h.perm
  · exact h.perm

theorem arrangePages_flat (hsort : sortPages r.field r.descending pages = .ok ordered)
    (hname : r.groupField.getD [] = []) : arrangePages r pages = .ok (.flat ordered) := by
  unfold arrangePages
  rw [hsort]
  cases hgroup : r.groupField with
  | none => rfl
  | some name =>
      rw [hgroup, Option.getD_some] at hname
      rw [hname]
      rfl

theorem arrangePages_grouped {name : Text}
    (hsort : sortPages r.field r.descending pages = .ok ordered)
    (hgroup : r.groupField = some name) (hname : name ≠ []) :
    arrangePages r pages = groupBy (fun p => p.get name) ordered := by
  obtain ⟨c, rest, rfl⟩ := List.exists_cons_of_ne_nil hname
  unfold arrangePages
  rw [hsort, hgroup]
  rfl

theorem runSort_eq {tree : FileTree} {root : Location} {settings : Settings}
    {arranged : Grouping Page} (hpages : loadPages tree root ≠ [])
    (hsettings : Settings.load tree root = .ok settings)
    (harranged : arrangePages r (loadPages tree root) = .ok arranged) :
    runSort tree root r = reportPieces (showPages settings r arranged) := by
  obtain ⟨p, rest, hload⟩ := List.exists_cons_of_ne_nil hpages
  rw [hload] at harranged
  unfold runSort
  rw [hsettings, hload]
  dsimp only [Except.mapError, Bind.bind, Except.bind]
  rw [harranged]

end

/-- **Sorting and grouping compose.** -/
theorem arrangePages_composes (r : SortRequest) (pages : List Page)
    (hfield : ∀ p ∈ pages, (p.get r.field).isComparable fun path => path)
    (hgroup : ∀ name, r.groupField = some name →
      ∀ p ∈ pages, (p.get name).isComparable fun path => path) :
    ∃ ordered, SortResult r pages ordered := by
  obtain ⟨ordered, harranges, hsort⟩ := sortPages_eq hfield
  have hdirected : sortPages r.field r.descending pages = .ok (r.directed ordered) :=
    hsort r.descending
  refine ⟨ordered, hsort false, hsort true, harranges, fun other h => harranges.unique hfield h,
    arrangePages_flat hdirected, fun name hname hne => ?_, ?_⟩
  · have hkeys : ∀ p ∈ r.directed ordered, (p.get name).isComparable fun path => path :=
      fun p hp => hgroup name hname p (harranges.perm_directed.mem_iff.mp hp)
    obtain ⟨sorted, groups, hgroups, hsorted, hruns⟩ := groupBy_eq hkeys
    have hpartitions := hsorted.partitions hkeys hruns
    refine ⟨groups, (arrangePages_grouped hdirected hname hne).trans hgroups, hpartitions,
      fun g hg => ?_⟩
    exact harranges.allows_directed.sublist (hpartitions.sublist g hg)
  · rintro tree root settings arranged hpages rfl hsettings harranged
    exact runSort_eq hpages hsettings harranged

/-- A page that is known by its frontmatter. -/
def pageOf (path : Text) (fields : List (Key × Value)) : Page :=
  { path, name := path, content := [], fields, links := [], size := 0, modified := 0 }

/-- Five pages, of which two have rank zero, two have no rank, and two have no status. -/
def rankedPages : List Page :=
  [pageOf ['a'] [(.string "status", .string "open")],
    pageOf ['b'] [(.string "rank", .int 0), (.string "status", .string "open")],
    pageOf ['c'] [(.string "rank", .null)],
    pageOf ['d'] [(.string "rank", .number (.float (.finite true .zero))),
      (.string "status", .string "open")],
    pageOf ['e'] [(.string "rank", .int (-1))]]

/-- The highest rank first, in groups by status. -/
def rankRequest : SortRequest where
  field := "rank"
  groupField := some "status"
  descending := true

theorem arrangePages_composes_ranked :
    (∀ p ∈ rankedPages, (p.get rankRequest.field).isComparable fun path => path) ∧
      (∀ name, rankRequest.groupField = some name →
        ∀ p ∈ rankedPages, (p.get name).isComparable fun path => path) ∧
      ∃ ordered, SortResult rankRequest rankedPages ordered := by
  have hfield : ∀ p ∈ rankedPages, (p.get rankRequest.field).isComparable fun path => path := by
    decide +kernel
  have hgroup : ∀ name, rankRequest.groupField = some name →
      ∀ p ∈ rankedPages, (p.get name).isComparable fun path => path := by
    intro name hname
    cases hname
    decide +kernel
  exact ⟨hfield, hgroup, arrangePages_composes rankRequest rankedPages hfield hgroup⟩

end NoteVault
