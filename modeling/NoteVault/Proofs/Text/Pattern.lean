import Mathlib.Data.List.Basic
import NoteVault.Proofs.Text.Span

/-!
# Parts of patterns

A pattern is matched by trying. A run of characters is taken as long as it can be, and a part that
can be missing is taken; where what follows does not match, the run is made shorter and the part
left out. So a pattern stands for the list of all its matches at the beginning of a text, in the
order in which they are tried.

A run need not be made shorter where nothing that comes next begins with a character of the run.
Then only the longest run is left, and it does not matter whether the long runs are tried first or,
the other way round, the short ones.

## Main definitions

* `literal`, `runs`, `anyRuns`, `optionally`, `signed` — the ways to match a part of a pattern.

## Main results

* `runs_flatMap`, `anyRuns_flatMap` — runs that need not be made shorter.
* `runs_reverse_flatMap` — runs that need not be tried short first.
-/

namespace NoteVault.Text

/-- What follows `sign`, if a text begins with it. -/
def literal (sign s : Text) : List Text := (dropStart? sign s).toList

/-- The ways to take characters that satisfy `p` off a text, at least one and first as many as
there are. -/
def runs (p : Char → Bool) : Text → List (Text × Text)
  | [] => []
  | c :: rest =>
    if p c then (runs p rest).map (fun found => (c :: found.1, found.2)) ++ [([c], rest)] else []

/-- The ways to take characters that satisfy `p` off a text, first as many as there are and last
none at all. -/
def anyRuns (p : Char → Bool) (s : Text) : List (Text × Text) := runs p s ++ [([], s)]

/-- The ways to match a part that can be missing: first those of the part, then without it. -/
def optionally {α : Type} (part : Text → List (α × Text)) (s : Text) : List (Option α × Text) :=
  (part s).map (fun found => (some found.1, found.2)) ++ [(none, s)]

/-- Whether a sign stands in front that can be missing. -/
def signed (sign s : Text) : List (Bool × Text) :=
  (literal sign s).map (fun back => (true, back)) ++ [(false, s)]

theorem dropStart?_eq_some_iff {start s rest : Text} :
    dropStart? start s = some rest ↔ s = start ++ rest := by
  fun_induction dropStart? start s with
  | case1 s => simp
  | case2 => simp
  | case3 start b s ih => simp [ih]
  | case4 a start b s hne => simp [Ne.symm hne]

@[simp]
theorem literal_nil (s : Text) : literal [] s = [s] := rfl

@[simp]
theorem literal_cons_nil (a : Char) (sign : Text) : literal (a :: sign) [] = [] := rfl

@[simp]
theorem literal_cons_cons (a c : Char) (sign s : Text) :
    literal (a :: sign) (c :: s) = if a = c then literal sign s else [] := by
  unfold literal
  rw [dropStart?]
  split <;> rfl

theorem literal_of_head?_ne {a : Char} {sign s : Text} (h : s.head? ≠ some a) :
    literal (a :: sign) s = [] := by
  cases s with
  | nil => rfl
  | cons c s => rw [literal_cons_cons, if_neg fun hc => h (congrArg some hc.symm)]

theorem run?_cons (p : Char → Bool) (c : Char) (rest : Text) :
    run? p (c :: rest) =
      if p c then some (c :: rest.takeWhile p, rest.dropWhile p) else none := by
  unfold run?
  rw [List.takeWhile_cons, List.dropWhile_cons]
  cases p c <;> rfl

/-- Where the first try matches, it gives the first match. -/
theorem head?_flatMap_of_head? {α β : Type} {tries : List α} {next : α → List β} {first : α}
    {found : β} (hfirst : tries.head? = some first) (hfound : (next first).head? = some found) :
    (tries.flatMap next).head? = some found := by
  obtain ⟨others, rfl⟩ := List.head?_eq_some_iff.mp hfirst
  rw [List.flatMap_cons, List.head?_append, hfound]
  rfl

/-- **Runs that need not be made shorter.** Where nothing that comes next begins with a character
of the run, only the longest run is left. -/
theorem runs_flatMap {β : Type} {p : Char → Bool} (next : Text × Text → List β) (s : Text)
    (h : ∀ front c back, p c = true → next (front, c :: back) = []) :
    (runs p s).flatMap next = (run? p s).toList.flatMap next := by
  induction s generalizing next with
  | nil => rfl
  | cons c rest ih =>
      rw [runs, run?_cons]
      cases hc : p c with
      | false => rfl
      | true =>
          have hlonger := ih (fun found => next (c :: found.1, found.2)) fun front => h (c :: front)
          simp only [if_true, List.flatMap_append, List.flatMap_map, hlonger, Option.toList_some,
            List.flatMap_singleton]
          cases rest with
          | nil => rfl
          | cons d rest =>
              rw [run?_cons]
              cases hd : p d with
              | false => simp [hd]
              | true => simp [hd, h]

/-- Where the long runs are left, it is the same to try the short ones first. -/
theorem runs_reverse_flatMap {β : Type} {p : Char → Bool} (next : Text × Text → List β) (s : Text)
    (h : ∀ front c back, p c = true → next (front, c :: back) = []) :
    (runs p s).reverse.flatMap next = (run? p s).toList.flatMap next := by
  have hnone : ∀ front c back, p c = true → (List.reverse ∘ next) (front, c :: back) = [] := by
    intro front c back hc
    rw [Function.comp_apply, h front c back hc]
    rfl
  rw [List.flatMap_reverse, runs_flatMap _ s hnone]
  cases run? p s with
  | none => rfl
  | some found => simp

/-- **Runs that can be empty and need not be made shorter.** -/
theorem anyRuns_flatMap {β : Type} {p : Char → Bool} (next : Text × Text → List β) (s : Text)
    (h : ∀ front c back, p c = true → next (front, c :: back) = []) :
    (anyRuns p s).flatMap next = next (s.takeWhile p, s.dropWhile p) := by
  rw [anyRuns, List.flatMap_append, List.flatMap_singleton, runs_flatMap next s h]
  cases s with
  | nil => rfl
  | cons c rest =>
      rw [run?_cons, List.takeWhile_cons, List.dropWhile_cons]
      cases hc : p c with
      | false => rfl
      | true => simp [h [] c rest hc]

/-- A run that can be empty takes the first character off, or nothing. -/
theorem anyRuns_cons (p : Char → Bool) (c : Char) (rest : Text) :
    anyRuns p (c :: rest) =
      (if p c then (anyRuns p rest).map (fun found => (c :: found.1, found.2)) else []) ++
        [([], c :: rest)] := by
  rw [anyRuns, runs]
  cases p c with
  | false => rfl
  | true => simp [anyRuns]

/-- The longest run is tried first. -/
theorem head?_anyRuns (p : Char → Bool) (s : Text) :
    (anyRuns p s).head? = some (s.takeWhile p, s.dropWhile p) := by
  induction s with
  | nil => rfl
  | cons c rest ih =>
      rw [anyRuns_cons, List.takeWhile_cons, List.dropWhile_cons]
      cases hc : p c with
      | false => rfl
      | true => simp [ih]

/-- All of them take something off the beginning. -/
theorem append_of_mem_anyRuns {p : Char → Bool} {s front back : Text}
    (h : (front, back) ∈ anyRuns p s) : s = front ++ back ∧ ∀ c ∈ front, p c = true := by
  induction s generalizing front with
  | nil =>
      cases List.mem_singleton.mp h
      exact ⟨rfl, nofun⟩
  | cons c rest ih =>
      rw [anyRuns_cons, List.mem_append] at h
      rcases h with h | h
      · cases hc : p c with
        | false => simp [hc] at h
        | true =>
            rw [if_pos hc, List.mem_map] at h
            obtain ⟨⟨front', back'⟩, hmem, heq⟩ := h
            obtain ⟨rfl, rfl⟩ := Prod.mk.inj heq
            obtain ⟨rfl, hall⟩ := ih hmem
            exact ⟨rfl, List.forall_mem_cons.mpr ⟨hc, hall⟩⟩
      · obtain ⟨rfl, rfl⟩ := Prod.mk.inj (List.mem_singleton.mp h)
        exact ⟨rfl, nofun⟩

end NoteVault.Text
