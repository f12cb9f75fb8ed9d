import Mathlib.Data.List.Induction
import Mathlib.Data.List.TakeWhile
import NoteVault.Proofs.Order.Equality
import NoteVault.Value.Sorting

/-!
# Sorting by a comparison that may be refused

A comparison that may be refused is as good as a pure one on things whose comparisons are all
answered. There the sorting is not refused either, and it gives the one list that has the
same things, in the order of the comparison, those that compare equal as they stood.

The list that is sorted so far is cut in two by the next thing: behind everything the thing
does not come before. Each of the three properties is looked at on that cut.

## Main results

* `insertSorted_eq` — where a thing is inserted.
* `SortedForm.insert` — a sorted form with one more thing.
* `eq_of_perm_of_filter_eq` — there is only one sorted form.
* `exists_sortedForm` — sorting gives the sorted form.
* `sortedByKey_eq` — the same for pairs whose keys are comparable values.
-/

namespace NoteVault

section

variable {ε α : Type} {refusing : α → α → Except ε Ordering} {cmp : α → α → Ordering} {x : α}
  {xs ys : List α}

/-- `ys` has the things of `xs` in the order of a comparison; things that compare equal stand
in it as they stand in `xs`. -/
structure SortedForm (cmp : α → α → Ordering) (xs ys : List α) : Prop where
  /-- Nothing is lost and nothing is added. -/
  perm : ys.Perm xs
  /-- Nothing stands in front of a thing that comes before it. -/
  increasing : ys.Pairwise fun a b => (cmp a b).isLE
  /-- The things that compare equal to one keep their order. -/
  stable : ∀ a, (ys.filter fun b => (cmp a b).isEq) = xs.filter fun b => (cmp a b).isEq

/-! ## One more thing -/

/-- The things that a thing is inserted behind. -/
def insertedBehind (cmp : α → α → Ordering) (x : α) (ys : List α) : List α :=
  ys.takeWhile fun y => !(cmp x y).isLT

/-- The things that a thing is inserted in front of. -/
def insertedBefore (cmp : α → α → Ordering) (x : α) (ys : List α) : List α :=
  ys.dropWhile fun y => !(cmp x y).isLT

theorem insertedBehind_append (cmp : α → α → Ordering) (x : α) (ys : List α) :
    insertedBehind cmp x ys ++ insertedBefore cmp x ys = ys :=
  List.takeWhile_append_dropWhile

/-- **Where a thing is inserted**: behind all that it does not come before. -/
theorem insertSorted_eq (h : ∀ y ∈ ys, refusing x y = .ok (cmp x y)) :
    insertSorted refusing x ys =
      .ok (insertedBehind cmp x ys ++ x :: insertedBefore cmp x ys) := by
  induction ys with
  | nil => rfl
  | cons y rest ih =>
      have hy := h y List.mem_cons_self
      have hrest := ih fun z hz => h z (List.mem_cons_of_mem _ hz)
      unfold insertedBehind insertedBefore at hrest ⊢
      rw [insertSorted, hy, List.takeWhile_cons, List.dropWhile_cons]
      cases hcmp : cmp x y with
      | lt => rfl
      | eq => simp [Bind.bind, Except.bind, Pure.pure, Except.pure, hrest]
      | gt => simp [Bind.bind, Except.bind, Pure.pure, Except.pure, hrest]

theorem isLE_of_mem_insertedBehind [Std.TransCmp cmp] {y : α} (h : y ∈ insertedBehind cmp x ys) :
    (cmp y x).isLE := by
  have hnot := List.mem_takeWhile_imp h
  have hswap : cmp y x = (cmp x y).swap := Std.OrientedCmp.eq_swap
  rw [hswap]
  cases hcmp : cmp x y with
  | lt => rw [hcmp] at hnot; cases hnot
  | eq => rfl
  | gt => rfl

theorem eq_lt_of_mem_insertedBefore [Std.TransCmp cmp]
    (hys : ys.Pairwise fun a b => (cmp a b).isLE) {y : α} (h : y ∈ insertedBefore cmp x ys) :
    cmp x y = .lt := by
  -- the first of them comes behind the thing, and so does everything behind that
  obtain ⟨first, rest, hsplit⟩ := List.exists_cons_of_ne_nil (List.ne_nil_of_mem h)
  have hfirst : cmp x first = .lt := by
    have hhead := List.head?_dropWhile_not (fun y => !(cmp x y).isLT) ys
    unfold insertedBefore at hsplit
    rw [hsplit] at hhead
    simpa using hhead
  have hsorted : (insertedBefore cmp x ys).Pairwise fun a b => (cmp a b).isLE :=
    hys.sublist (List.dropWhile_sublist _)
  rw [hsplit] at h hsorted
  rcases List.mem_cons.mp h with rfl | h
  · exact hfirst
  · exact Std.TransCmp.lt_of_lt_of_isLE hfirst (List.rel_of_pairwise_cons hsorted h)

/-- **A sorted form with one more thing.** -/
theorem SortedForm.insert [Std.TransCmp cmp] (h : SortedForm cmp xs ys) (x : α) :
    SortedForm cmp (xs ++ [x]) (insertedBehind cmp x ys ++ x :: insertedBefore cmp x ys) where
  perm := by
    have hmiddle : (insertedBehind cmp x ys ++ x :: insertedBefore cmp x ys).Perm
        (x :: (insertedBehind cmp x ys ++ insertedBefore cmp x ys)) := List.perm_middle
    rw [insertedBehind_append] at hmiddle
    exact hmiddle.trans ((h.perm.cons x).trans (List.perm_append_singleton x xs).symm)
  increasing := by
    have hsplit := h.increasing
    rw [← insertedBehind_append cmp x ys, List.pairwise_append] at hsplit
    refine List.pairwise_append.mpr ⟨hsplit.1, List.pairwise_cons.mpr ⟨?_, hsplit.2.1⟩, ?_⟩
    · intro y hy
      rw [eq_lt_of_mem_insertedBefore h.increasing hy]
      rfl
    · intro y hy z hz
      rcases List.mem_cons.mp hz with rfl | hz
      · exact isLE_of_mem_insertedBehind hy
      · exact hsplit.2.2 y hy z hz
  stable a := by
    have hstable := h.stable a
    rw [← insertedBehind_append cmp x ys, List.filter_append] at hstable
    rw [List.filter_append, List.filter_append, ← hstable, List.filter_cons, List.filter_cons,
      List.filter_nil]
    cases hx : (cmp a x).isEq with
    | false => simp
    | true =>
        -- nothing that comes behind the thing is equal to it
        have hnone : (insertedBefore cmp x ys).filter (fun b => (cmp a b).isEq) = [] := by
          refine List.filter_eq_nil_iff.mpr fun y hy => ?_
          rw [Std.TransCmp.congr_left (Ordering.isEq_iff_eq_eq.mp hx),
            eq_lt_of_mem_insertedBefore h.increasing hy]
          decide
        simp [hnone]

/-! ## The only one -/

/-- **Lists in order that have the same things and keep equal ones alike are one list.** Each
begins with a thing that does not come after that of the other, and of the things equal to it
both have the same one first. -/
theorem eq_of_perm_of_filter_eq [Std.TransCmp cmp] {zs : List α} (hperm : ys.Perm zs)
    (hys : ys.Pairwise fun a b => (cmp a b).isLE) (hzs : zs.Pairwise fun a b => (cmp a b).isLE)
    (hfilter : ∀ a ∈ ys, (ys.filter fun b => (cmp a b).isEq) = zs.filter fun b => (cmp a b).isEq) :
    ys = zs := by
  induction ys generalizing zs with
  | nil => exact hperm.nil_eq
  | cons y rest ih =>
      obtain ⟨z, rest', rfl⟩ := List.exists_cons_of_ne_nil fun hnil =>
        List.cons_ne_nil y rest (hperm.trans (List.Perm.of_eq hnil)).eq_nil
      have hyz : (cmp y z).isLE := by
        rcases List.mem_cons.mp (hperm.mem_iff.mpr List.mem_cons_self) with rfl | hz
        · exact Std.ReflCmp.isLE_rfl
        · exact List.rel_of_pairwise_cons hys hz
      have hzy : (cmp z y).isLE := by
        rcases List.mem_cons.mp (hperm.mem_iff.mp List.mem_cons_self) with rfl | hy
        · exact Std.ReflCmp.isLE_rfl
        · exact List.rel_of_pairwise_cons hzs hy
      have heq : cmp y z = .eq := Std.OrientedCmp.isLE_antisymm hyz hzy
      have hself : cmp y y = .eq := Std.ReflCmp.compare_self
      have hfirst := hfilter y List.mem_cons_self
      rw [List.filter_cons_of_pos (by rw [hself]; rfl),
        List.filter_cons_of_pos (by rw [heq]; rfl)] at hfirst
      obtain rfl : y = z := (List.cons.inj hfirst).1
      refine congrArg (y :: ·) (ih hperm.cons_inv hys.of_cons hzs.of_cons fun a ha => ?_)
      have hrest := hfilter a (List.mem_cons_of_mem y ha)
      rw [List.filter_cons, List.filter_cons] at hrest
      split at hrest
      · exact (List.cons.inj hrest).2
      · exact hrest

/-! ## The whole list -/

theorem sortedForm_nil : SortedForm cmp [] [] where
  perm := List.Perm.nil
  increasing := List.Pairwise.nil
  stable _ := rfl

theorem sortedBy_concat (refusing : α → α → Except ε Ordering) (xs : List α) (x : α) :
    sortedBy refusing (xs ++ [x]) = sortedBy refusing xs >>= insertSorted refusing x := by
  unfold sortedBy
  rw [List.foldlM_append]
  cases List.foldlM (fun sorted x => insertSorted refusing x sorted) [] xs with
  | error e => rfl
  | ok ys =>
      simp only [List.foldlM_cons, List.foldlM_nil, bind_pure]

/-- **Sorting gives the sorted form** if no comparison of its things is refused. -/
theorem exists_sortedForm [Std.TransCmp cmp]
    (h : ∀ a ∈ xs, ∀ b ∈ xs, refusing a b = .ok (cmp a b)) :
    ∃ ys, sortedBy refusing xs = .ok ys ∧ SortedForm cmp xs ys := by
  induction xs using List.reverseRecOn with
  | nil => exact ⟨[], rfl, sortedForm_nil⟩
  | append_singleton xs x ih =>
      obtain ⟨ys, hys, hform⟩ := ih fun a ha b hb => h a (by simp [ha]) b (by simp [hb])
      refine ⟨_, ?_, hform.insert x⟩
      rw [sortedBy_concat, hys]
      refine insertSorted_eq fun y hy => h x (by simp) y ?_
      exact List.mem_append_left _ (hform.perm.mem_iff.mp hy)

end

/-! ## Pairs with comparable keys -/

/-- The order of the keys of two pairs. -/
def keyOrder {α : Type} (p q : Value × α) : Ordering := p.1.literalKey.order q.1.literalKey

instance instTransCmpKeyOrder {α : Type} :
    Std.TransCmp (keyOrder : Value × α → Value × α → Ordering) where
  eq_swap {_ _} := OrderKey.order_swap _ _
  isLE_trans {_ _ _} hab hbc := OrderKey.instTransCmpOrder.isLE_trans hab hbc

/-- Comparable values are compared as their keys are. -/
theorem Value.compare_eq_order {a b : Value} (ha : a.isComparable fun path => path)
    (hb : b.isComparable fun path => path) :
    a.compare b = .ok (a.literalKey.order b.literalKey) :=
  compareBy_eq_order ha hb

/-- **Pairs are sorted by their keys**, if these are comparable. -/
theorem sortedByKey_eq {α : Type} {pairs : List (Value × α)}
    (h : ∀ p ∈ pairs, p.1.isComparable fun path => path) :
    ∃ sorted, sortedByKey pairs = .ok sorted ∧ SortedForm keyOrder pairs sorted :=
  exists_sortedForm fun p hp q hq => Value.compare_eq_order (h p hp) (h q hq)

end NoteVault
