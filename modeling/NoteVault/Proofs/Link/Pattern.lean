import NoteVault.Proofs.Link.WikiLink
import NoteVault.Proofs.Text.Pattern

/-!
# The pattern of link marks

The pattern of link marks stands for the list of all its matches at the beginning of a text, in the
order in which they are tried. A search takes the first of them, and a text that has to match as a
whole takes the first that leaves nothing.

Recognising a mark does not try anything twice, and it does not have to. A run that is shorter than
it could be is followed by a character that could belong to it, and none of the parts behind begins
with such a character. Only `^` can be taken in two ways, for the sign of a block and for the first
character of a header, and both leave the same behind. So all matches of the pattern end at the same
place, and the first of them is the one that is recognised.

## Main definitions

* `WikiLink.matchesOf` — the matches of the pattern at the beginning of a text.
* `WikiLink.fullMatch` — the match that takes in a whole text.

## Main results

* `WikiLink.recognise_eq_head?` — what is recognised is the first match.
* `WikiLink.ofText?_eq_fullMatch` — a text that is one mark is a match as a whole.
-/

namespace NoteVault

open Text

namespace WikiLink

/-! ## The pattern -/

/-- The matches of a subpath, with its `#`. -/
def subpathMatches (s : Text) : List ((Bool × Text) × Text) :=
  (literal ['#'] s).flatMap fun s =>
  (signed ['^'] s).flatMap fun (block, s) =>
  (runs inSubpath s).map fun (sub, s) => ((block, sub), s)

/-- The matches of the text shown, with its `|`. -/
def displayMatches (s : Text) : List (Text × Text) :=
  (literal ['|'] s).flatMap (runs (· != ']'))

/-- The matches of what stands behind a subpath, given the mark for each text shown. -/
def closingMatches (mark : Option Text → WikiLink) (s : Text) : List (WikiLink × Text) :=
  (optionally displayMatches s).flatMap fun (display, s) =>
  (literal [']', ']'] s).map fun s => (mark display, s)

/-- The matches of what stands behind `[[`. -/
def insideMatches (embed : Bool) (s : Text) : List (WikiLink × Text) :=
  (runs inTarget s).flatMap fun (target, s) =>
  (optionally subpathMatches s).flatMap fun (subpath, s) =>
  closingMatches (fun display => ⟨embed, target, subpath, display⟩) s

/-- The matches of the pattern at the beginning of a text, in the order in which they are tried. -/
def matchesOf (s : Text) : List (WikiLink × Text) :=
  (signed ['!'] s).flatMap fun (embed, s) =>
  (literal ['[', '['] s).flatMap (insideMatches embed)

/-- The first match that takes in a whole text. -/
def fullMatch (s : Text) : Option WikiLink :=
  ((matchesOf s).find? fun found => found.2.isEmpty).map (·.1)

/-! ## The first match -/

/-- Of some matches, tried one after the other, `first` is the first, and the others end where it
ends. -/
structure Leads {α : Type} (first : Option (α × Text)) (tries : List (α × Text)) : Prop where
  /-- It is the first. -/
  head : tries.head? = first
  /-- All leave the same behind. -/
  ends : ∀ t ∈ tries, first.map (·.2) = some t.2

theorem leads_toList {α : Type} (found : Option (α × Text)) : Leads found found.toList := by
  cases found with
  | none => exact ⟨rfl, nofun⟩
  | some found => exact ⟨rfl, fun t ht => by rw [List.mem_singleton.mp ht]; rfl⟩

/-- More tries that end where the first ends change nothing. -/
theorem Leads.append {α : Type} {first : Option (α × Text)} {tries more : List (α × Text)}
    (h : Leads first tries) (hmore : ∀ t ∈ more, first.map (·.2) = some t.2) :
    Leads first (tries ++ more) where
  head := by
    cases tries with
    | cons t tries => exact h.head
    | nil =>
        obtain rfl : none = first := h.head
        cases more with
        | nil => rfl
        | cons t more => exact absurd (hmore t List.mem_cons_self) nofun
  ends := fun t ht => (List.mem_append.mp ht).elim (h.ends t) (hmore t)

/-- What stands behind a subpath, with its text shown if it has one. -/
def closing? (s : Text) : Option (Option Text × Text) :=
  (dropStart? [']', ']'] (takeDisplay s).2).map fun rest => ((takeDisplay s).1, rest)

theorem takeDisplay_of_head?_ne {s : Text} (h : s.head? ≠ some '|') : takeDisplay s = (none, s) := by
  unfold takeDisplay
  split
  · exact absurd rfl h
  · rfl

theorem closing?_cons_of_inSubpath {c : Char} {back : Text} (h : inSubpath c = true) :
    closing? (c :: back) = none := by
  obtain ⟨hclose, hbar⟩ := (Bool.and_eq_true _ _).mp h
  have hhead : (c :: back).head? ≠ some '|' := fun hc => bne_iff_ne.mp hbar (Option.some.inj hc)
  rw [closing?, takeDisplay_of_head?_ne hhead, dropStart?,
    if_neg fun hc => bne_iff_ne.mp hclose hc.symm]
  rfl

theorem map_literal (mark : Option Text → WikiLink) (display : Option Text) (s : Text) :
    (literal [']', ']'] s).map (fun s => (mark display, s)) =
      ((dropStart? [']', ']'] s).map fun rest => (mark display, rest)).toList := by
  unfold literal
  cases dropStart? [']', ']'] s <;> rfl

/-- The text shown and the end of a mark can be matched in one way only. -/
theorem closingMatches_eq (mark : Option Text → WikiLink) (s : Text) :
    closingMatches mark s = ((closing? s).map fun found => (mark found.1, found.2)).toList := by
  by_cases hbar : s.head? = some '|'
  · obtain ⟨rest, rfl⟩ := List.head?_eq_some_iff.mp hbar
    have hruns := runs_flatMap (p := (· != ']'))
      (fun found => (literal [']', ']'] found.2).map fun s => (mark (some found.1), s)) rest
      fun front c back hc => by
        have hhead : (c :: back).head? ≠ some ']' := fun h => bne_iff_ne.mp hc (Option.some.inj h)
        rw [literal_of_head?_ne hhead, List.map_nil]
    unfold closingMatches closing? optionally displayMatches
    rw [takeDisplay_bar]
    simp only [literal_cons_cons, if_true, literal_nil, List.flatMap_singleton, List.flatMap_append,
      List.flatMap_map, hruns]
    cases run? (· != ']') rest with
    | none => simp [dropStart?]
    | some found => simp [map_literal, Function.comp_def]
  · unfold closingMatches closing? optionally displayMatches
    rw [takeDisplay_of_head?_ne hbar, literal_of_head?_ne hbar]
    simp [map_literal, Function.comp_def]

/-! ## Subpaths -/

/-- The mark that is closed behind a subpath, and what it leaves behind. -/
def closed? (mark : Option (Bool × Text) → Option Text → WikiLink)
    (found : Option (Bool × Text) × Text) : Option (WikiLink × Text) :=
  (closing? found.2).map fun (shown, rest) => (mark found.1 shown, rest)

variable (mark : Option (Bool × Text) → Option Text → WikiLink)

/-- Where a mark is closed does not depend on the subpath. -/
theorem map_closed? (subpath other : Option (Bool × Text)) (s : Text) :
    (closed? mark (subpath, s)).map (·.2) = (closed? mark (other, s)).map (·.2) := by
  unfold closed?
  cases closing? s <;> rfl

theorem closed?_cons_of_inSubpath {c : Char} (subpath : Option (Bool × Text)) {back : Text}
    (h : inSubpath c = true) : closed? mark (subpath, c :: back) = none := by
  rw [closed?, closing?_cons_of_inSubpath h]
  rfl

theorem takeSubpath_of_head?_ne {s : Text} (h : s.head? ≠ some '#') : takeSubpath s = (none, s) := by
  unfold takeSubpath
  split
  · exact absurd rfl h
  · rfl

theorem takeSubpath_sharp (rest : Text) :
    takeSubpath ('#' :: rest) =
      (subpathOf? rest).elim (none, '#' :: rest) fun found => (some found.1, found.2) := by
  simp only [takeSubpath]
  cases subpathOf? rest <;> rfl

/-- Behind the `#`, a run goes as far as it can, with and without the sign of a block. -/
theorem flatMap_subpathMatches (rest : Text) :
    ((subpathMatches ('#' :: rest)).flatMap fun found =>
        (closed? mark (some found.1, found.2)).toList) =
      (signed ['^'] rest).flatMap fun sign =>
        (run? inSubpath sign.2).toList.flatMap fun found =>
          (closed? mark (some (sign.1, found.1), found.2)).toList := by
  unfold subpathMatches
  simp only [literal_cons_cons, if_true, literal_nil, List.flatMap_singleton, List.flatMap_assoc,
    List.flatMap_map]
  refine List.flatMap_congr fun sign _ => runs_flatMap _ sign.2 fun front c back hc => ?_
  rw [closed?_cons_of_inSubpath mark _ hc]
  rfl

/-- The subpath that is taken leads to the first match. -/
theorem leads_closed? (s : Text) :
    Leads (closed? mark (takeSubpath s))
      ((optionally subpathMatches s).flatMap fun found => (closed? mark found).toList) := by
  by_cases hsharp : s.head? = some '#'
  · obtain ⟨rest, rfl⟩ := List.head?_eq_some_iff.mp hsharp
    have hnone : closed? mark (none, '#' :: rest) = none := closed?_cons_of_inSubpath mark none rfl
    rw [optionally, List.flatMap_append, List.flatMap_map, flatMap_subpathMatches,
      List.flatMap_singleton, hnone, Option.toList_none, List.append_nil, takeSubpath_sharp]
    by_cases hcaret : rest.head? = some '^'
    · obtain ⟨rest, rfl⟩ := List.head?_eq_some_iff.mp hcaret
      have hsigned : signed ['^'] ('^' :: rest) = [(true, rest), (false, '^' :: rest)] := rfl
      rw [subpathOf?_caret, hsigned, List.flatMap_cons, List.flatMap_singleton, run?_cons,
        if_pos (by decide)]
      cases hrun : run? inSubpath rest with
      | none => simpa [headerOf] using leads_toList (closed? mark _)
      | some found =>
          obtain ⟨sub, back⟩ := found
          obtain ⟨rfl, _, hsub, hback⟩ := run?_eq_some_iff.mp hrun
          -- taken for a header, the run begins with the `^` and ends where it ended before
          simp only [span_append hsub hback, Option.toList_some, List.flatMap_singleton,
            Option.elim_some]
          refine (leads_toList _).append fun t ht => ?_
          rw [map_closed? mark _ (some (false, '^' :: sub)), Option.mem_toList.mp ht]
          rfl
    · have hsigned : signed ['^'] rest = [(false, rest)] := by
        rw [signed, literal_of_head?_ne hcaret]
        rfl
      rw [subpathOf?_of_head? hcaret, hsigned, List.flatMap_singleton]
      cases run? inSubpath rest with
      | none => simpa [hnone] using leads_toList (α := WikiLink) none
      | some found => simpa [headerOf] using leads_toList (closed? mark _)
  · rw [takeSubpath_of_head?_ne hsharp, optionally, subpathMatches, literal_of_head?_ne hsharp]
    simpa using leads_toList _

/-! ## The whole pattern -/

theorem insideMatches_eq (embed : Bool) (s : Text) :
    insideMatches embed s =
      (run? inTarget s).toList.flatMap fun found =>
        (optionally subpathMatches found.2).flatMap fun behind =>
          (closed? (fun subpath display => ⟨embed, found.1, subpath, display⟩) behind).toList := by
  unfold insideMatches
  simp only [closingMatches_eq]
  refine runs_flatMap _ s fun front c back hc => ?_
  obtain ⟨hsubpath, hsharp⟩ := (Bool.and_eq_true _ _).mp hc
  have hhead : (c :: back).head? ≠ some '#' := fun h => bne_iff_ne.mp hsharp (Option.some.inj h)
  simp [optionally, subpathMatches, literal_of_head?_ne hhead, closing?_cons_of_inSubpath hsubpath]

theorem inside?_eq_closed? (embed : Bool) (s : Text) :
    inside? embed s =
      (run? inTarget s).bind fun found =>
        closed? (fun subpath display => ⟨embed, found.1, subpath, display⟩)
          (takeSubpath found.2) := by
  rw [inside?_eq]
  cases run? inTarget s with
  | none => rfl
  | some found =>
      simp only [Option.bind_some, closed?, closing?, Option.map_map]
      split
      · next h => simp [h, dropStart?]
      · next h =>
          rw [Option.eq_none_iff_forall_ne_some.mpr fun rest hrest =>
            h rest (dropStart?_eq_some_iff.mp hrest)]
          rfl

theorem leads_inside? (embed : Bool) (s : Text) : Leads (inside? embed s) (insideMatches embed s) := by
  rw [insideMatches_eq, inside?_eq_closed?]
  cases run? inTarget s with
  | none => exact leads_toList none
  | some found => simpa using leads_closed? _ found.2

theorem matchesOf_eq (s : Text) :
    matchesOf s =
      (literal ['!', '[', '['] s).flatMap (insideMatches true) ++
        (literal ['[', '['] s).flatMap (insideMatches false) := by
  unfold matchesOf signed
  cases s with
  | nil => rfl
  | cons c s =>
      rw [literal_cons_cons, literal_cons_cons '!' c]
      split <;> simp

theorem leads_recognise (s : Text) : Leads (recognise s) (matchesOf s) := by
  rw [matchesOf_eq]
  unfold recognise
  split
  · simpa using leads_inside? true _
  · simpa using leads_inside? false _
  · next hembed hplain =>
      have hnone : ∀ sign : Text, (∀ rest, s = sign ++ rest → False) → literal sign s = [] := by
        intro sign h
        rw [literal, Option.eq_none_iff_forall_ne_some.mpr fun rest hrest =>
          h rest (dropStart?_eq_some_iff.mp hrest)]
        rfl
      rw [hnone _ hembed, hnone _ hplain]
      exact leads_toList none

/-- **What is recognised is the first match.** -/
theorem recognise_eq_head? (s : Text) : recognise s = (matchesOf s).head? :=
  (leads_recognise s).head.symm

/-- **A text that is one mark is a match as a whole.** All matches end at the same place, so the
first of them takes in the text if any does. -/
theorem ofText?_eq_fullMatch (s : Text) : ofText? s = fullMatch s := by
  obtain ⟨hhead, hends⟩ := leads_recognise s
  unfold ofText? fullMatch
  rw [← hhead] at hends ⊢
  cases htries : matchesOf s with
  | nil => rfl
  | cons first others =>
      obtain ⟨w, back⟩ := first
      rw [htries] at hends
      cases back with
      | nil => rfl
      | cons c back =>
          have hnone : ((w, c :: back) :: others).find? (fun found => found.2.isEmpty) = none := by
            refine List.find?_eq_none.mpr fun t ht => ?_
            have hback : c :: back = t.2 := Option.some.inj (hends t ht)
            rw [← hback]
            exact Bool.false_ne_true
          rw [hnone]
          rfl

end WikiLink
end NoteVault
