import NoteVault.Proofs.Link.SingleBlanks

/-!
# The words of a header

A header is known in links by its words, with single blanks between them. No character of a word
is a blank, so that where all other characters have become blanks, the pieces between blanks are
the runs of word characters.

These words are those of the text that is made of them, so making it once more changes nothing,
and the text has no other characters than those of words and blanks, of which none stands in front.

## Main definitions

* `wordRuns` — the runs of word characters of a text.

## Main results

* `normalizeHeader_eq` — a header is known by its words with blanks between them.
* `wordRuns_joinWith` — words with blanks between them are the words of the whole.
* `normalizeHeader_normalizeHeader` — the words of a header are its own words.
-/

namespace NoteVault

open Text

/-- The maximal runs of word characters, in order. -/
def wordRuns (s : Text) : List Text :=
  (splitWhere (fun c => !isWord c) s).filter fun run => !run.isEmpty

/-! ## Blanks for symbols -/

/-- The code points of the blanks are those of no word characters. -/
theorem inRanges_wordRanges_of_blank :
    ∀ range ∈ blankRanges, ∀ d < range.2 + 1 - range.1,
      inRanges wordRanges (range.1 + d) = false := by
  decide +kernel

/-- A blank is no character of a word. -/
theorem isWord_of_isBlank {c : Char} (h : isBlank c = true) : isWord c = false := by
  obtain ⟨range, hmem, hlo, hhi⟩ := exists_mem_of_inRanges h
  have hnot := inRanges_wordRanges_of_blank range hmem (c.toNat - range.1) (by omega)
  rwa [Nat.add_sub_cancel' hlo] at hnot

/-- What stands for a character is blank exactly if it is no character of a word. -/
theorem isBlank_of_blankSymbols (c : Char) :
    isBlank (if isWord c || isBlank c then c else ' ') = !isWord c := by
  cases hword : isWord c with
  | true =>
      have hblank : isBlank c = false := by
        by_contra h
        rw [isWord_of_isBlank (eq_true_of_ne_false h)] at hword
        cases hword
      exact hblank
  | false =>
      cases hblank : isBlank c with
      | true => exact hblank
      | false => exact (by decide : isBlank ' ' = true)

/-- A text is cut at other characters that were put in for those where it is to be cut. -/
theorem Text.splitWhere_map {p q : Char → Bool} {f : Char → Char} (hcut : ∀ c, q (f c) = p c)
    (hkeep : ∀ c, p c = false → f c = c) (s : Text) : splitWhere q (s.map f) = splitWhere p s := by
  induction s with
  | nil => rfl
  | cons c rest ih =>
      rw [List.map_cons, splitWhere, splitWhere, ih, hcut]
      cases hc : p c with
      | true => rfl
      | false => rw [hkeep c hc]

/-- **Where symbols have become blanks**, the pieces between blanks are the runs of word
characters. -/
theorem words_blankSymbols (s : Text) : words (blankSymbols s) = wordRuns s := by
  have hkeep : ∀ c, (!isWord c) = false → (if isWord c || isBlank c then c else ' ') = c := by
    intro c hc
    rw [Bool.not_eq_false'] at hc
    rw [hc]
    rfl
  unfold words wordRuns blankSymbols
  rw [splitWhere_map isBlank_of_blankSymbols hkeep]

/-- **A header is known by its words** with blanks between them. -/
theorem normalizeHeader_eq (header : Text) :
    normalizeHeader header = joinWith [' '] (wordRuns header) := by
  rw [normalizeHeader, strip_singleBlanks, words_blankSymbols]

/-! ## Words with blanks between them -/

theorem Text.mem_joinWith {sep : Text} {pieces : List Text} {c : Char}
    (h : c ∈ joinWith sep pieces) : c ∈ sep ∨ ∃ piece ∈ pieces, c ∈ piece := by
  induction pieces with
  | nil => cases h
  | cons piece rest ih =>
      cases rest with
      | nil => exact Or.inr ⟨piece, List.mem_cons_self, h⟩
      | cons next rest =>
          rw [joinWith, List.mem_append, List.mem_append] at h
          rcases h with (h | h) | h
          · exact Or.inr ⟨piece, List.mem_cons_self, h⟩
          · exact Or.inl h
          · rcases ih h with hsep | ⟨other, hother, hc⟩
            · exact Or.inl hsep
            · exact Or.inr ⟨other, List.mem_cons_of_mem _ hother, hc⟩

/-- A word is not empty and has only characters of words. -/
theorem mem_wordRuns {s run : Text} (h : run ∈ wordRuns s) :
    run ≠ [] ∧ ∀ c ∈ run, isWord c = true := by
  obtain ⟨hpiece, hfilled⟩ := List.mem_filter.mp h
  refine ⟨by simpa using hfilled, fun c hc => ?_⟩
  simpa using (mem_of_mem_splitWhere hpiece hc).2

/-- **Words with blanks between them** are the words of the whole. -/
theorem wordRuns_joinWith {runs : List Text}
    (h : ∀ run ∈ runs, run ≠ [] ∧ ∀ c ∈ run, isWord c = true) :
    wordRuns (joinWith [' '] runs) = runs := by
  by_cases hruns : runs = []
  · rw [hruns]
    rfl
  · unfold wordRuns
    rw [splitWhere_joinWith (by decide) hruns fun run hrun c hc => by simp [(h run hrun).2 c hc]]
    exact List.filter_eq_self.mpr fun run hrun => by simpa using (h run hrun).1

theorem wordRuns_normalizeHeader (header : Text) :
    wordRuns (normalizeHeader header) = wordRuns header := by
  rw [normalizeHeader_eq]
  exact wordRuns_joinWith fun _ => mem_wordRuns

/-- **The words of a header are its own words.** -/
theorem normalizeHeader_normalizeHeader (header : Text) :
    normalizeHeader (normalizeHeader header) = normalizeHeader header := by
  rw [normalizeHeader_eq (normalizeHeader header), wordRuns_normalizeHeader, normalizeHeader_eq]

theorem isWord_or_of_mem_normalizeHeader {header : Text} {c : Char}
    (h : c ∈ normalizeHeader header) : isWord c = true ∨ c = ' ' := by
  rw [normalizeHeader_eq] at h
  rcases mem_joinWith h with hsep | ⟨run, hrun, hc⟩
  · exact Or.inr (List.mem_singleton.mp hsep)
  · exact Or.inl ((mem_wordRuns hrun).2 c hc)

/-- The words of a header begin with a word. -/
theorem isWord_of_head?_normalizeHeader {header : Text} {c : Char}
    (h : (normalizeHeader header).head? = some c) : isWord c = true := by
  rw [normalizeHeader_eq] at h
  cases hruns : wordRuns header with
  | nil =>
      rw [hruns] at h
      cases h
  | cons run rest =>
      obtain ⟨hne, hword⟩ := mem_wordRuns (hruns ▸ List.mem_cons_self)
      obtain ⟨first, run, rfl⟩ := List.exists_cons_of_ne_nil hne
      rw [hruns] at h
      cases rest <;> exact Option.some.inj h ▸ hword first List.mem_cons_self

end NoteVault
