import NoteVault.Proofs.Order.KeyOrder
import NoteVault.Proofs.Value.Lookup

/-!
# Fields sorted by name

The order looks at the fields of an object in the order of their names, each name once,
with the value that stood under it last. So fields are what they hold under each name:
two descriptions give the same sorted fields if and only if they give the same value
under every name, in whatever order they list them.

## Main results

* `sortFields_lookup` — sorted fields hold the last value under each name.
* `sortFields_eq_iff` — sorted fields are the same if they hold the same.
-/

namespace NoteVault

variable {α : Type}

/-- The last value that a list of names and values has under a name. -/
def lastUnder (name : Text) (pairs : List (Text × α)) : Option α :=
  (pairs.filter fun p => p.1 = name).getLast?.map (·.2)

theorem lastUnder_concat (name n : Text) (v : α) (pairs : List (Text × α)) :
    lastUnder name (pairs ++ [(n, v)]) = if n = name then some v else lastUnder name pairs := by
  unfold lastUnder
  by_cases h : n = name
  · simp [h]
  · simp [h]

/-- What is found under a name stood under it. -/
theorem mem_of_lastUnder {name : Text} {v : α} {pairs : List (Text × α)}
    (h : lastUnder name pairs = some v) : (name, v) ∈ pairs := by
  obtain ⟨⟨n, w⟩, hlast, rfl⟩ := Option.map_eq_some_iff.mp h
  obtain ⟨hmem, hname⟩ := List.mem_filter.mp (List.mem_of_getLast? hlast)
  rw [← of_decide_eq_true hname]
  exact hmem

/-! ## Putting one field -/

theorem mem_putField {f : Text × α} {name : Text} {v : α} {fields : List (Text × α)}
    (h : f ∈ putField name v fields) : f = (name, v) ∨ f ∈ fields := by
  induction fields with
  | nil => exact .inl (List.mem_singleton.mp h)
  | cons g rest ih =>
      obtain ⟨n, w⟩ := g
      unfold putField at h
      split at h
      · exact List.mem_cons.mp h
      · rcases List.mem_cons.mp h with hf | hf
        · exact .inl hf
        · exact .inr (List.mem_cons_of_mem _ hf)
      · rcases List.mem_cons.mp h with hf | hf
        · exact .inr (hf ▸ List.mem_cons_self)
        · exact (ih hf).imp_right (List.mem_cons_of_mem _)

theorem putField_lookup (m name : Text) (v : α) (fields : List (Text × α)) :
    (putField name v fields).lookup m = if m = name then some v else fields.lookup m := by
  induction fields with
  | nil => exact lookup_cons_eq m name v []
  | cons g rest ih =>
      obtain ⟨n, w⟩ := g
      unfold putField
      split
      · exact lookup_cons_eq m name v _
      · next heq =>
          rw [← Text.order_eq_iff.mp heq, lookup_cons_eq, lookup_cons_eq]
          split <;> rfl
      · next hgt =>
          have hne : n ≠ name := Text.ne_of_order_lt (Std.OrientedCmp.lt_of_gt hgt)
          rw [lookup_cons_eq, lookup_cons_eq, ih]
          by_cases hm : m = n
          · rw [if_pos hm, if_pos hm, if_neg fun h => hne (hm.symm.trans h)]
          · rw [if_neg hm, if_neg hm]

/-! ## Sorted fields -/

/-- Fields in the order of their names, each name once. -/
def NamesIncrease (fields : List (Text × α)) : Prop :=
  fields.Pairwise fun f g => Text.order f.1 g.1 = .lt

theorem NamesIncrease.putField {fields : List (Text × α)} (h : NamesIncrease fields)
    (name : Text) (v : α) : NamesIncrease (putField name v fields) := by
  induction fields with
  | nil => exact List.pairwise_singleton _ _
  | cons g rest ih =>
      obtain ⟨n, w⟩ := g
      obtain ⟨hhead, hrest⟩ := List.pairwise_cons.mp h
      unfold NoteVault.putField
      split
      · next hlt =>
          refine List.pairwise_cons.mpr ⟨fun f hf => ?_, h⟩
          rcases List.mem_cons.mp hf with rfl | hf
          · exact hlt
          · exact Std.TransCmp.lt_trans hlt (hhead f hf)
      · next heq =>
          rw [Text.order_eq_iff.mp heq]
          exact List.pairwise_cons.mpr ⟨hhead, hrest⟩
      · next hgt =>
          refine List.pairwise_cons.mpr ⟨fun f hf => ?_, ih hrest⟩
          rcases mem_putField hf with rfl | hf
          · exact Std.OrientedCmp.lt_of_gt hgt
          · exact hhead f hf

/-- A name before all others is not among them. -/
theorem lookup_eq_none_of_before {name : Text} {fields : List (Text × α)}
    (h : ∀ f ∈ fields, Text.order name f.1 = .lt) : fields.lookup name = none := by
  rw [List.lookup_eq_none_iff]
  intro f hf
  exact bne_iff_ne.mpr (Text.ne_of_order_lt (h f hf))

/-- A name before the first of sorted fields is not among them. -/
theorem NamesIncrease.lookup_eq_none {f : Text × α} {fs : List (Text × α)}
    (h : NamesIncrease (f :: fs)) {name : Text} (hname : Text.order name f.1 = .lt) :
    (f :: fs).lookup name = none := by
  refine lookup_eq_none_of_before fun g hg => ?_
  rcases List.mem_cons.mp hg with rfl | hg
  · exact hname
  · exact Std.TransCmp.lt_trans hname ((List.pairwise_cons.mp h).1 g hg)

/-- Of sorted fields that hold the same under each name, none begin before the others. -/
theorem NamesIncrease.not_before {f g : Text × α} {fs gs : List (Text × α)}
    (hg : NamesIncrease (g :: gs)) (h : ∀ m, (f :: fs).lookup m = (g :: gs).lookup m) :
    Text.order f.1 g.1 ≠ .lt := by
  intro hlt
  have hf := h f.1
  rw [hg.lookup_eq_none hlt, List.lookup_cons_self] at hf
  cases hf

theorem NamesIncrease.name_eq {f g : Text × α} {fs gs : List (Text × α)}
    (hf : NamesIncrease (f :: fs)) (hg : NamesIncrease (g :: gs))
    (h : ∀ m, (f :: fs).lookup m = (g :: gs).lookup m) : f.1 = g.1 := by
  cases hname : Text.order f.1 g.1 with
  | eq => exact Text.order_eq_iff.mp hname
  | lt => exact absurd hname (hg.not_before h)
  | gt => exact absurd (Std.OrientedCmp.lt_of_gt hname) (hf.not_before fun m => (h m).symm)

/-- Sorted fields are determined by what they hold under each name. -/
theorem NamesIncrease.ext {fs gs : List (Text × α)} (hf : NamesIncrease fs)
    (hg : NamesIncrease gs) (h : ∀ m, fs.lookup m = gs.lookup m) : fs = gs := by
  induction fs generalizing gs with
  | nil =>
      cases gs with
      | nil => rfl
      | cons g gs =>
          have hg := h g.1
          rw [List.lookup_cons_self] at hg
          cases hg
  | cons f fs ih =>
      cases gs with
      | nil =>
          have hf := h f.1
          rw [List.lookup_cons_self] at hf
          cases hf
      | cons g gs =>
          obtain ⟨n, v⟩ := f
          obtain ⟨m, w⟩ := g
          obtain rfl : n = m := hf.name_eq hg h
          obtain ⟨hfhead, hfrest⟩ := List.pairwise_cons.mp hf
          obtain ⟨hghead, hgrest⟩ := List.pairwise_cons.mp hg
          have hvalue : v = w := by
            have hn := h n
            rw [List.lookup_cons_self, List.lookup_cons_self] at hn
            exact Option.some.inj hn
          have htail : fs = gs := by
            refine ih hfrest hgrest fun m => ?_
            by_cases hm : m = n
            · rw [hm, lookup_eq_none_of_before hfhead, lookup_eq_none_of_before hghead]
            · have hm' := h m
              rw [lookup_cons_eq, lookup_cons_eq, if_neg hm, if_neg hm] at hm'
              exact hm'
          rw [hvalue, htail]

/-! ## Sorting fields -/

theorem sortFields_concat (n : Text) (v : α) (pairs : List (Text × α)) :
    sortFields (pairs ++ [(n, v)]) = putField n v (sortFields pairs) := by
  rw [sortFields, List.foldl_append]
  rfl

/-- Sorting is one more field put into the sorted fields, so what holds of no fields and
is kept by putting one holds of sorted fields. -/
theorem sortFields_induction {motive : List (Text × α) → List (Text × α) → Prop}
    (nil : motive [] [])
    (concat : ∀ pairs n v, motive pairs (sortFields pairs) →
      motive (pairs ++ [(n, v)]) (putField n v (sortFields pairs)))
    (pairs : List (Text × α)) : motive pairs (sortFields pairs) := by
  rw [← List.reverse_reverse pairs]
  induction pairs.reverse with
  | nil => exact nil
  | cons p rest ih =>
      rw [List.reverse_cons, sortFields_concat]
      exact concat _ _ _ ih

/-- Sorting only loses fields. -/
theorem mem_of_mem_sortFields {f : Text × α} {pairs : List (Text × α)}
    (h : f ∈ sortFields pairs) : f ∈ pairs := by
  revert h
  refine sortFields_induction (motive := fun pairs fields => f ∈ fields → f ∈ pairs) id ?_ pairs
  intro pairs n v ih h
  rcases mem_putField h with rfl | hf
  · exact List.mem_append_right _ (List.mem_singleton.mpr rfl)
  · exact List.mem_append_left _ (ih hf)

theorem namesIncrease_sortFields (pairs : List (Text × α)) : NamesIncrease (sortFields pairs) :=
  sortFields_induction (motive := fun _ fields => NamesIncrease fields) List.Pairwise.nil
    (fun _ n v ih => ih.putField n v) pairs

/-- Sorted fields hold the last value under each name. -/
theorem sortFields_lookup (m : Text) (pairs : List (Text × α)) :
    (sortFields pairs).lookup m = lastUnder m pairs := by
  refine sortFields_induction
    (motive := fun pairs fields => fields.lookup m = lastUnder m pairs) rfl ?_ pairs
  intro pairs n v ih
  rw [putField_lookup, lastUnder_concat, ih]
  exact ite_congr (propext eq_comm) (fun _ => rfl) fun _ => rfl

/-- Sorted fields are the same if and only if they hold the same under each name. -/
theorem sortFields_eq_iff {ps qs : List (Text × α)} :
    sortFields ps = sortFields qs ↔ ∀ m, lastUnder m ps = lastUnder m qs := by
  constructor
  · intro h m
    rw [← sortFields_lookup, h, sortFields_lookup]
  · intro h
    refine (namesIncrease_sortFields ps).ext (namesIncrease_sortFields qs) fun m => ?_
    rw [sortFields_lookup, h, sortFields_lookup]

end NoteVault
