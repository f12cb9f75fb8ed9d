import NoteVault.Proofs.Line.InlineField
import NoteVault.Proofs.Text.Pattern

/-!
# The pattern of inline fields

In the pattern of a field the key and the value are runs that are tried short first, and the blanks
on either side of the value are runs that are tried long first. The value could begin with the
blanks in front of it and end with those behind it. That it has neither is settled by the order of
the tries: all blanks in front are taken at the first try, and then the shortest value is tried
behind which only blanks stand before the bracket.

A search takes the first match. Recognising a field tries nothing, and finds the same: the key is
all that can be a key, since two colons can stand only behind the last of its characters, and the
value is what stands before the first closing bracket, stripped.

## Main definitions

* `matchesOf` — the matches of the pattern at the beginning of a text.

## Main results

* `head?_valueMatches` — the first value that is tried with success is a stripped one.
* `recognise_eq_head?` — what is recognised is the first match.
-/

namespace NoteVault

open Text

namespace InlineField

variable {wrapping closing : Char}

/-! ## The pattern -/

/-- The matches of blanks and a closing bracket. -/
def closingMatches (closing : Char) (s : Text) : List Text :=
  (anyRuns isBlank s).flatMap fun (_, s) => literal [closing] s

/-- The matches of a value and what closes it, the short values first. -/
def valueMatches (closing : Char) (s : Text) : List (Text × Text) :=
  (anyRuns (· != closing) s).reverse.flatMap fun (value, s) =>
  (closingMatches closing s).map fun s => (value, s)

/-- The matches of what stands behind key and colons, with all blanks in front of the value first. -/
def behindMatches (wrapping closing : Char) (key s : Text) : List (InlineField × Text) :=
  (anyRuns isBlank s).flatMap fun (_, s) =>
  (valueMatches closing s).map fun (value, s) => (⟨strip key, value, wrapping⟩, s)

/-- The matches of what stands behind a bracket, the short keys first. -/
def insideMatches (wrapping closing : Char) (s : Text) : List (InlineField × Text) :=
  (runs inKey s).reverse.flatMap fun (key, s) =>
  (literal [':', ':'] s).flatMap (behindMatches wrapping closing key)

/-- The matches of the pattern at the beginning of a text, in the order in which they are tried. -/
def matchesOf (s : Text) : List (InlineField × Text) :=
  (literal ['['] s).flatMap (insideMatches '[' ']') ++
    (literal ['('] s).flatMap (insideMatches '(' ')')

/-! ## The value -/

/-- Blanks before a closing bracket can be matched in one way only. -/
theorem closingMatches_eq (h : isBlank closing = false) (s : Text) :
    closingMatches closing s = literal [closing] (stripStart s) := by
  refine anyRuns_flatMap (fun found => literal [closing] found.2) s fun _ c back hc => ?_
  refine literal_of_head?_ne fun hhead => ?_
  rw [Option.some.inj hhead] at hc
  exact Bool.false_ne_true (h.symm.trans hc)

theorem closingMatches_of_not_mem (hblank : isBlank closing = false) {s : Text}
    (h : closing ∉ s) : closingMatches closing s = [] := by
  rw [closingMatches_eq hblank]
  refine literal_of_head?_ne fun hhead => h ?_
  exact (List.dropWhile_suffix isBlank).subset (List.mem_of_mem_head? hhead)

/-- Blanks and the first closing bracket match where nothing but blanks stands before it. -/
theorem closingMatches_append (hblank : isBlank closing = false) {value : Text}
    (h : closing ∉ value) (after : Text) : closingMatches closing (value ++ closing :: after) =
      if stripStart value = [] then [after] else [] := by
  rw [closingMatches_eq hblank, stripStart_append value (endsAt_cons.mpr hblank)]
  cases hvalue : stripStart value with
  | nil => simp
  | cons d more =>
      have hmem : d ∈ value :=
        (List.dropWhile_suffix isBlank).subset (hvalue ▸ List.mem_cons_self : d ∈ stripStart value)
      rw [if_neg (List.cons_ne_nil d more)]
      refine literal_of_head?_ne fun hhead => h ?_
      exact Option.some.inj hhead ▸ hmem

/-- Without a closing bracket no value matches. -/
theorem valueMatches_of_not_mem (hblank : isBlank closing = false) {s : Text}
    (h : closing ∉ s) : valueMatches closing s = [] := by
  refine List.flatMap_eq_nil_iff.mpr ?_
  rintro ⟨value, back⟩ hfound
  obtain ⟨rfl, _⟩ := append_of_mem_anyRuns (List.mem_reverse.mp hfound)
  have hback : closing ∉ back := fun hmem => h (List.mem_append_right value hmem)
  exact List.map_eq_nil_iff.mpr (closingMatches_of_not_mem hblank hback)

/-- First the empty value is tried, and then those that have the first character. -/
theorem valueMatches_cons (c : Char) (rest : Text) :
    valueMatches closing (c :: rest) =
      (closingMatches closing (c :: rest)).map (fun back => ([], back)) ++
        if c != closing then
          (valueMatches closing rest).map (fun found => (c :: found.1, found.2))
        else [] := by
  unfold valueMatches
  rw [anyRuns_cons, List.reverse_append, List.flatMap_append, List.reverse_singleton,
    List.flatMap_singleton]
  congr 1
  split
  · rw [← List.map_reverse, List.flatMap_map, List.map_flatMap]
    simp only [List.map_map, Function.comp_def]
  · rfl

/-- **The first value that is tried with success** is what stands before the closing bracket,
without the blanks at its end. -/
theorem head?_valueMatches (hblank : isBlank closing = false) {value : Text}
    (h : closing ∉ value) (after : Text) :
    (valueMatches closing (value ++ closing :: after)).head? = some (stripEnd value, after) := by
  induction value with
  | nil =>
      have hclosing : closingMatches closing (closing :: after) = [after] :=
        closingMatches_append hblank h after
      rw [List.nil_append, valueMatches_cons, hclosing]
      rfl
  | cons c value ih =>
      obtain ⟨hc, hvalue⟩ : closing ≠ c ∧ closing ∉ value := by simpa using h
      have hclosing : closingMatches closing (c :: (value ++ closing :: after)) =
          if stripStart (c :: value) = [] then [after] else [] :=
        closingMatches_append hblank h after
      rw [List.cons_append, valueMatches_cons, hclosing]
      by_cases hnil : stripStart (c :: value) = []
      · -- only blanks stand before the bracket, and the empty value is enough
        have hend : stripEnd (c :: value) = [] := by
          rw [stripEnd, dropEndWhile_eq_rdropWhile, List.rdropWhile_eq_nil_iff]
          exact List.dropWhile_eq_nil_iff.mp hnil
        rw [if_pos hnil, hend]
        rfl
      · have hend : stripEnd (c :: value) = c :: stripEnd value :=
          dropEndWhile_cons fun hall => hnil (List.dropWhile_eq_nil_iff.mpr hall)
        rw [if_neg hnil, List.map_nil, List.nil_append, if_pos (bne_iff_ne.mpr hc.symm),
          List.head?_map, ih hvalue, hend]
        rfl

/-! ## A field behind its bracket -/

theorem head?_behindMatches (hblank : isBlank closing = false) (key : Text) {value : Text}
    (h : closing ∉ value) (after : Text) :
    (behindMatches wrapping closing key (value ++ closing :: after)).head? =
      some (⟨strip key, strip value, wrapping⟩, after) := by
  refine head?_flatMap_of_head? (head?_anyRuns _ _) ?_
  have hstart : (value ++ closing :: after).dropWhile isBlank =
      stripStart value ++ closing :: after :=
    stripStart_append value (endsAt_cons.mpr hblank)
  have hvalue : closing ∉ stripStart value := fun hmem =>
    h ((List.dropWhile_suffix isBlank).subset hmem)
  dsimp only
  rw [hstart, List.head?_map, head?_valueMatches hblank hvalue]
  rfl

theorem behindMatches_of_not_mem (hblank : isBlank closing = false) (key : Text) {s : Text}
    (h : closing ∉ s) : behindMatches wrapping closing key s = [] := by
  refine List.flatMap_eq_nil_iff.mpr ?_
  rintro ⟨blanks, back⟩ hfound
  obtain ⟨rfl, _⟩ := append_of_mem_anyRuns hfound
  have hback : closing ∉ back := fun hmem => h (List.mem_append_right blanks hmem)
  exact List.map_eq_nil_iff.mpr (valueMatches_of_not_mem hblank hback)

/-- Two colons stand only behind the longest key. -/
theorem insideMatches_eq (wrapping closing : Char) (s : Text) :
    insideMatches wrapping closing s =
      (run? inKey s).toList.flatMap fun found =>
        (literal [':', ':'] found.2).flatMap (behindMatches wrapping closing found.1) := by
  refine runs_reverse_flatMap _ s fun _ c back hc => ?_
  have hhead : (c :: back).head? ≠ some ':' := by
    intro hhead
    rw [Option.some.inj hhead] at hc
    exact Bool.false_ne_true hc
  exact List.flatMap_eq_nil_iff.mpr fun _ hfound => by
    rw [literal_of_head?_ne hhead] at hfound
    cases hfound

/-- **What stands behind a bracket** is matched first as it is recognised. -/
theorem head?_insideMatches (hblank : isBlank closing = false) (s : Text) :
    (insideMatches wrapping closing s).head? = inside? wrapping closing s := by
  rw [insideMatches_eq]
  by_cases hopens : Opens s
  · obtain ⟨key, rest, hopening⟩ := hopens
    have hrun : run? inKey s = some (key, ':' :: ':' :: rest) :=
      run?_eq_some_iff.mpr ⟨hopening.1, hopening.2.1, hopening.2.2, endsAt_cons.mpr rfl⟩
    simp only [hrun, Option.toList_some, List.flatMap_singleton, literal_cons_cons, if_true,
      literal_nil]
    by_cases hmem : closing ∈ rest
    · obtain ⟨value, after, rfl, hvalue⟩ := List.eq_append_cons_of_mem hmem
      rw [head?_behindMatches hblank key hvalue, inside?_of_mem hopening hvalue]
    · rw [behindMatches_of_not_mem hblank key hmem, inside?_of_not_mem hopening hmem]
      rfl
  · rw [inside?_of_not_opens hopens, List.head?_eq_none_iff, List.flatMap_eq_nil_iff]
    rintro ⟨key, back⟩ hfound
    obtain ⟨rfl, hne, hkey, _⟩ := run?_eq_some_iff.mp (Option.mem_toList.mp hfound)
    -- a key is there, so that the colons are missing
    refine List.flatMap_eq_nil_iff.mpr fun rest hrest => absurd ?_ hopens
    have hback : back = ':' :: ':' :: rest :=
      dropStart?_eq_some_iff.mp (Option.mem_toList.mp hrest)
    exact ⟨key, rest, by rw [hback], hne, hkey⟩

/-! ## The whole pattern -/

/-- **What is recognised is the first match.** -/
theorem recognise_eq_head? (s : Text) : recognise s = (matchesOf s).head? := by
  unfold recognise matchesOf
  split
  · have hblank : isBlank ']' = false := by decide
    simp [head?_insideMatches hblank]
  · have hblank : isBlank ')' = false := by decide
    simp [head?_insideMatches hblank]
  · next hsquare hround =>
      have hnone : ∀ bracket, (∀ rest, s = bracket :: rest → False) → literal [bracket] s = [] := by
        intro bracket h
        refine literal_of_head?_ne fun hhead => ?_
        obtain ⟨rest, hrest⟩ := List.head?_eq_some_iff.mp hhead
        exact h rest hrest
      rw [hnone '[' hsquare, hnone '(' hround]
      rfl

end InlineField
end NoteVault
