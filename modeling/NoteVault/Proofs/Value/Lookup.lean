import Mathlib.Data.List.Nodup

/-!
# Entries put under keys

Many things are kept as lists of entries under keys. An entry that is put under a key takes the
place of the one that is there, or stands behind all. Each kind of such lists has its own way to
put an entry; all are `putUnder`, and what is found afterwards is said once.

Entries that were put one after the other have different keys, and entries with different keys
that are put stay as they are. So putting them again changes nothing.

## Main results

* `eq_putUnder` — what puts entries like that.
* `nodup_putAll`, `putAll_eq_self` — entries that are put one after the other.
* `lookup_putUnder` — what is found after an entry was put.
-/

namespace NoteVault

variable {κ α : Type} [DecidableEq κ]

/-- Entries with one put under a key: in the place of the one with that key, or else at the end. -/
def putUnder (key : κ) (value : α) : List (κ × α) → List (κ × α)
  | [] => [(key, value)]
  | (k, v) :: rest => if k = key then (key, value) :: rest else (k, v) :: putUnder key value rest

/-- **What puts entries like that.** -/
theorem eq_putUnder {key : κ} {value : α} (put : List (κ × α) → List (κ × α))
    (hnil : put [] = [(key, value)])
    (hcons : ∀ k v rest, put ((k, v) :: rest) =
      if k = key then (key, value) :: rest else (k, v) :: put rest) (entries : List (κ × α)) :
    put entries = putUnder key value entries := by
  induction entries with
  | nil => exact hnil
  | cons first rest ih =>
      obtain ⟨k, v⟩ := first
      rw [hcons, ih]
      rfl

/-- Entries with other keys stay in front. -/
theorem putUnder_append {key : κ} {value : α} {entries : List (κ × α)}
    (h : ∀ e ∈ entries, e.1 ≠ key) (rest : List (κ × α)) :
    putUnder key value (entries ++ rest) = entries ++ putUnder key value rest := by
  induction entries with
  | nil => rfl
  | cons e entries ih =>
      obtain ⟨he, hentries⟩ := List.forall_mem_cons.mp h
      rw [List.cons_append, putUnder, if_neg he, ih hentries, List.cons_append]

theorem putUnder_subset (key : κ) (value : α) (entries : List (κ × α)) :
    putUnder key value entries ⊆ (key, value) :: entries := by
  induction entries with
  | nil => exact List.Subset.refl _
  | cons first rest ih =>
      obtain ⟨k, v⟩ := first
      unfold putUnder
      split
      · exact List.cons_subset_cons _ (List.subset_cons_self _ _)
      · intro e he
        rcases List.mem_cons.mp he with rfl | he
        · exact List.mem_cons_of_mem _ List.mem_cons_self
        · rcases List.mem_cons.mp (ih he) with rfl | he
          · exact List.mem_cons_self
          · exact List.mem_cons_of_mem _ (List.mem_cons_of_mem _ he)

/-- A new key stands behind all others. -/
theorem map_fst_putUnder (key : κ) (value : α) (entries : List (κ × α)) :
    (putUnder key value entries).map (·.1) =
      if key ∈ entries.map (·.1) then entries.map (·.1) else entries.map (·.1) ++ [key] := by
  induction entries with
  | nil => rfl
  | cons first rest ih =>
      obtain ⟨k, v⟩ := first
      unfold putUnder
      by_cases hk : k = key
      · rw [if_pos hk, if_pos (by simp [hk]), List.map_cons, List.map_cons, hk]
      · rw [if_neg hk, List.map_cons, ih, List.map_cons]
        by_cases hrest : key ∈ rest.map (·.1)
        · rw [if_pos hrest, if_pos (List.mem_cons_of_mem _ hrest)]
        · rw [if_neg hrest, if_neg (List.not_mem_cons_of_ne_of_not_mem (Ne.symm hk) hrest),
            List.cons_append]

/-! ## Entries put one after the other -/

/-- Entries put one after the other. -/
def putAll (entries : List (κ × α)) : List (κ × α) :=
  entries.foldl (fun kept e => putUnder e.1 e.2 kept) []

theorem putAll_subset (entries : List (κ × α)) : putAll entries ⊆ entries := by
  refine List.foldlRecOn (motive := (· ⊆ entries)) entries _ (List.nil_subset _) ?_
  intro kept hkept e he
  exact List.Subset.trans (putUnder_subset e.1 e.2 kept) (List.cons_subset.mpr ⟨he, hkept⟩)

theorem nodup_putUnder {entries : List (κ × α)} (key : κ) (value : α)
    (h : (entries.map (·.1)).Nodup) : ((putUnder key value entries).map (·.1)).Nodup := by
  rw [map_fst_putUnder]
  split
  · exact h
  · next hnew => exact List.concat_eq_append ▸ h.concat hnew

/-- **Entries that were put have different keys.** -/
theorem nodup_putAll (entries : List (κ × α)) : ((putAll entries).map (·.1)).Nodup := by
  refine List.foldlRecOn (motive := fun kept : List (κ × α) => (kept.map (·.1)).Nodup)
    entries _ ?_ fun kept hkept e _ => nodup_putUnder e.1 e.2 hkept
  exact List.nodup_nil

/-- Entries with new keys stand behind those that were put before. -/
theorem foldl_putUnder {entries kept : List (κ × α)} (h : ((kept ++ entries).map (·.1)).Nodup) :
    entries.foldl (fun kept e => putUnder e.1 e.2 kept) kept = kept ++ entries := by
  induction entries generalizing kept with
  | nil => exact (List.append_nil kept).symm
  | cons e rest ih =>
      have hnew : ∀ d ∈ kept, d.1 ≠ e.1 := by
        intro d hd heq
        rw [List.map_append, List.nodup_append] at h
        exact h.2.2 d.1 (List.mem_map_of_mem hd) e.1 (List.mem_map_of_mem List.mem_cons_self) heq
      have hput : putUnder e.1 e.2 kept = kept ++ [e] := by
        rw [← List.append_nil kept, putUnder_append hnew, List.append_nil]
        rfl
      rw [List.foldl_cons, hput, ih (by simpa using h), List.append_assoc, List.singleton_append]

/-- **Entries with different keys stay as they are.** -/
theorem putAll_eq_self {entries : List (κ × α)} (h : (entries.map (·.1)).Nodup) :
    putAll entries = entries := by
  have hbehind : ((([] : List (κ × α)) ++ entries).map (·.1)).Nodup := h
  exact foldl_putUnder hbehind

/-! ## What is found -/

variable [BEq κ] [LawfulBEq κ]

theorem lookup_cons_eq (k key : κ) (value : α) (rest : List (κ × α)) :
    ((key, value) :: rest).lookup k = if k = key then some value else rest.lookup k := by
  by_cases hk : k = key
  · rw [if_pos hk, hk, List.lookup_cons_self]
  · rw [if_neg hk, List.lookup_cons, beq_false_of_ne hk]

/-- **What is found after an entry was put.** -/
theorem lookup_putUnder (key : κ) (value : α) (entries : List (κ × α)) (k : κ) :
    (putUnder key value entries).lookup k = if k = key then some value else entries.lookup k := by
  induction entries with
  | nil => exact lookup_cons_eq k key value []
  | cons first rest ih =>
      obtain ⟨other, v⟩ := first
      unfold putUnder
      by_cases hother : other = key
      · rw [if_pos hother, hother, lookup_cons_eq, lookup_cons_eq]
        split <;> rfl
      · rw [if_neg hother, lookup_cons_eq, lookup_cons_eq, ih]
        by_cases hk : k = key
        · rw [if_pos hk, if_neg (hk ▸ Ne.symm hother), if_pos hk]
        · rw [if_neg hk, if_neg hk]

end NoteVault
