import Mathlib.Data.List.TakeWhile
import NoteVault.Text.Basic

/-!
# Runs at the beginning of a text

A recogniser takes characters of one kind off the beginning of a text, as many as there are. What
it takes is a run exactly if its characters are of the kind and the text does not go on with such
a character.

## Main results

* `span_append` — a run is taken off whole.
* `run?_eq_some_iff` — which run is taken off.
-/

namespace NoteVault.Text

/-- No run of characters that satisfy `p` goes on at `back`. -/
def EndsAt (p : Char → Bool) (back : Text) : Prop := ∀ c, back.head? = some c → p c = false

theorem endsAt_dropWhile {p : Char → Bool} (s : Text) : EndsAt p (s.dropWhile p) := by
  intro c hc
  have hnot := List.head?_dropWhile_not p s
  rw [hc] at hnot
  exact hnot

theorem endsAt_cons {p : Char → Bool} {c : Char} {back : Text} :
    EndsAt p (c :: back) ↔ p c = false :=
  ⟨fun h => h c rfl, fun h _ hc => Option.some.inj hc ▸ h⟩

theorem endsAt_append {p : Char → Bool} {s back : Text} (h : ∀ c ∈ s, p c = false)
    (hback : EndsAt p back) : EndsAt p (s ++ back) := by
  cases s with
  | nil => exact hback
  | cons c rest => exact endsAt_cons.mpr (h c List.mem_cons_self)

/-- A run that begins where none goes on is empty. -/
theorem eq_nil_of_endsAt {p : Char → Bool} {s back : Text} (h : ∀ c ∈ s, p c = true)
    (hends : EndsAt p (s ++ back)) : s = [] := by
  cases s with
  | nil => rfl
  | cons c rest => exact absurd (h c List.mem_cons_self) (ne_true_of_eq_false (hends c rfl))

/-- **A run is taken off whole.** -/
theorem span_append {p : Char → Bool} {s back : Text} (h : ∀ c ∈ s, p c = true)
    (hback : EndsAt p back) :
    (s ++ back).takeWhile p = s ∧ (s ++ back).dropWhile p = back := by
  rw [List.takeWhile_append_of_pos h, List.dropWhile_append_of_pos h]
  cases back with
  | nil => exact ⟨List.append_nil s, rfl⟩
  | cons c back =>
      have hc : ¬ p c = true := ne_true_of_eq_false (endsAt_cons.mp hback)
      rw [List.takeWhile_cons_of_neg hc, List.dropWhile_cons_of_neg hc]
      exact ⟨List.append_nil s, rfl⟩

/-- The run of characters that satisfy `p`, if there are any, and what follows it. -/
def run? (p : Char → Bool) (s : Text) : Option (Text × Text) :=
  match s.takeWhile p with
  | [] => none
  | front => some (front, s.dropWhile p)

/-- **Which run is taken off.** -/
theorem run?_eq_some_iff {p : Char → Bool} {s front back : Text} :
    run? p s = some (front, back) ↔
      s = front ++ back ∧ front ≠ [] ∧ (∀ c ∈ front, p c = true) ∧ EndsAt p back := by
  constructor
  · intro h
    unfold run? at h
    split at h
    · cases h
    · next hne =>
        cases h
        exact ⟨List.takeWhile_append_dropWhile.symm, hne, fun c => List.mem_takeWhile_imp,
          endsAt_dropWhile s⟩
  · rintro ⟨rfl, hne, hfront, hback⟩
    obtain ⟨htake, hdrop⟩ := span_append hfront hback
    obtain ⟨c, front, rfl⟩ := List.exists_cons_of_ne_nil hne
    unfold run?
    rw [htake, hdrop]

theorem run?_eq_none_iff {p : Char → Bool} {s : Text} : run? p s = none ↔ EndsAt p s := by
  unfold run?
  cases s with
  | nil => exact iff_of_true rfl nofun
  | cons c rest =>
      rw [endsAt_cons, List.takeWhile_cons]
      cases hc : p c <;> simp

end NoteVault.Text
