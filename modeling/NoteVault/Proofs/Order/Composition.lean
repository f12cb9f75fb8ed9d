import NoteVault.Text.Basic

/-!
# Outcomes of comparisons that fit together

A comparison is transitive if its outcomes on `a, b`, on `b, c` and on `a, c` fit
together: two equal outcomes give the same one again, and where one side finds no
difference the other side decides. `Composes` says that of three outcomes at once.
It carries `lt`, `eq` and `gt` together, so a lexicographic comparison composes as
soon as its parts do, and a proof about nested values is one induction and not one
for each outcome.

## Main results

* `Composes.andThen` — lexicographic comparisons compose.
* `composes_of_transCmp`, `Composes.isLE` — to and from the library's notion of a
  transitive comparison.
-/

namespace NoteVault

/-- The outcomes `ab`, `bc` and `ac` are those of one transitive comparison. -/
structure Composes (ab bc ac : Ordering) : Prop where
  /-- No difference on the left: the right side decides. -/
  eq_left : ab = .eq → ac = bc
  /-- No difference on the right: the left side decides. -/
  eq_right : bc = .eq → ac = ab
  /-- Two equal outcomes give the same one. -/
  same : ab = bc → ac = ab

/-- Outcomes of which no one finds a difference fit together. -/
theorem composes_eq : Composes .eq .eq .eq :=
  ⟨fun _ => rfl, fun _ => rfl, fun _ => rfl⟩

/-- Lexicographic comparisons compose. The second parts only matter where the first
parts find no difference at all: a difference in one of the first three outcomes is
a difference in two of them. -/
theorem Composes.andThen {ab bc ac ab' bc' ac' : Ordering} (h : Composes ab bc ac)
    (h' : ab = .eq → bc = .eq → Composes ab' bc' ac') :
    Composes (ab.then ab') (bc.then bc') (ac.then ac') := by
  obtain ⟨hleft, hright, hsame⟩ := h
  cases ab with
  | eq =>
      rw [hleft rfl]
      cases bc with
      | eq => exact h' rfl rfl
      | lt => exact ⟨fun _ => rfl, nofun, fun h => h.symm⟩
      | gt => exact ⟨fun _ => rfl, nofun, fun h => h.symm⟩
  | lt =>
      cases bc with
      | eq =>
          rw [hright rfl]
          exact ⟨nofun, fun _ => rfl, fun _ => rfl⟩
      | lt =>
          rw [hsame rfl]
          exact ⟨nofun, nofun, fun _ => rfl⟩
      | gt => exact ⟨nofun, nofun, nofun⟩
  | gt =>
      cases bc with
      | eq =>
          rw [hright rfl]
          exact ⟨nofun, fun _ => rfl, fun _ => rfl⟩
      | lt => exact ⟨nofun, nofun, nofun⟩
      | gt =>
          rw [hsame rfl]
          exact ⟨nofun, nofun, fun _ => rfl⟩

/-- A transitive comparison composes. -/
theorem composes_of_transCmp {α : Type} (cmp : α → α → Ordering) [Std.TransCmp cmp] (a b c : α) :
    Composes (cmp a b) (cmp b c) (cmp a c) where
  eq_left h := Std.TransCmp.congr_left h
  eq_right h := (Std.TransCmp.congr_right h).symm
  same h := by
    cases hab : cmp a b with
    | lt => exact Std.TransCmp.lt_trans hab (h ▸ hab)
    | eq => exact Std.TransCmp.eq_trans hab (h ▸ hab)
    | gt => exact Std.TransCmp.gt_trans hab (h ▸ hab)

/-- What composes is transitive. -/
theorem Composes.isLE {ab bc ac : Ordering} (h : Composes ab bc ac) (hab : ab.isLE)
    (hbc : bc.isLE) : ac.isLE := by
  cases ab with
  | eq => rw [h.eq_left rfl]; exact hbc
  | gt => cases hab
  | lt =>
      cases bc with
      | eq => rw [h.eq_right rfl]; rfl
      | lt => rw [h.same rfl]; rfl
      | gt => cases hbc

end NoteVault
