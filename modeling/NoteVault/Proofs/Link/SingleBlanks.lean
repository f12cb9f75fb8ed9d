import NoteVault.Link.Header
import NoteVault.Proofs.Text.Scan
import NoteVault.Proofs.Text.Words

/-!
# Single blanks

A text with a single blank in the place of every run of blanks, and with none at its ends, is
its words with blanks between them. The blanks are told apart by where they stand: those in front
of the first word and those behind the last one are stripped away, and between two words there is
one run, of which one blank is left.

## Main results

* `strip_singleBlanks` — what is left is the words of a text with single blanks between them.
* `stripEnd_singleBlanks` — of a text that begins with a word, this needs no more than its end
  stripped.
-/

namespace NoteVault

open Text

/-! ## One run -/

theorem singleBlanks_cons {c : Char} (hc : isBlank c = false) (rest : Text) :
    singleBlanks (c :: rest) = c :: singleBlanks rest :=
  replace_cons_of_eq_none (by rw [blankRun?, hc]; rfl)

/-- Of a run of blanks a single one is left. -/
theorem singleBlanks_cons_blank {c : Char} (hc : isBlank c = true) (rest : Text) :
    singleBlanks (c :: rest) = ' ' :: singleBlanks (stripStart rest) := by
  have hsplit : c :: rest = (c :: rest.takeWhile isBlank) ++ stripStart rest := by
    rw [List.cons_append, stripStart, List.takeWhile_append_dropWhile]
  have hrun : blankRun? (c :: rest) = some ([' '], stripStart rest) := if_pos hc
  rw [hsplit] at hrun ⊢
  exact replace_of_recognise (List.cons_ne_nil _ _) hrun

theorem singleBlanks_append {word : Text} (h : ∀ c ∈ word, isBlank c = false) (back : Text) :
    singleBlanks (word ++ back) = word ++ singleBlanks back := by
  induction word with
  | nil => rfl
  | cons c word ih =>
      rw [List.cons_append, singleBlanks_cons (h c List.mem_cons_self),
        ih fun d hd => h d (List.mem_cons_of_mem c hd), List.cons_append]

/-! ## The beginning of a text -/

theorem stripStart_singleBlanks_of_endsAt {s : Text} (h : EndsAt isBlank s) :
    stripStart (singleBlanks s) = singleBlanks s := by
  cases s with
  | nil => rfl
  | cons c rest =>
      rw [singleBlanks_cons (endsAt_cons.mp h)]
      exact stripStart_eq_self_of_head? h

/-- Blanks in front can be stripped away before or after. -/
theorem stripStart_singleBlanks (s : Text) :
    stripStart (singleBlanks s) = singleBlanks (stripStart s) := by
  cases s with
  | nil => rfl
  | cons c rest =>
      cases hc : isBlank c with
      | false =>
          have hends : EndsAt isBlank (c :: rest) := endsAt_cons.mpr hc
          rw [stripStart_singleBlanks_of_endsAt hends, stripStart_eq_self_of_head? hends]
      | true =>
          have hstrip : stripStart (c :: rest) = stripStart rest := List.dropWhile_cons_of_pos hc
          rw [singleBlanks_cons_blank hc, hstrip]
          exact stripStart_singleBlanks_of_endsAt (endsAt_dropWhile rest)

/-! ## The end of a text -/

theorem Text.stripEnd_of_not_blank {word : Text} (h : ∀ c ∈ word, isBlank c = false) :
    stripEnd word = word :=
  dropEndWhile_eq_self_iff.mpr fun c hc => h c (List.mem_of_getLast? hc)

/-- Where something is left, it begins with a word. -/
theorem stripEnd_singleBlanks_ne_nil {s : Text} (hne : s ≠ []) (h : EndsAt isBlank s) :
    stripEnd (singleBlanks s) ≠ [] := by
  obtain ⟨c, rest, rfl⟩ := List.exists_cons_of_ne_nil hne
  have hfilled : singleBlanks (c :: rest) ≠ [] := by
    rw [singleBlanks_cons (endsAt_cons.mp h)]
    exact List.cons_ne_nil _ _
  have hstart := stripStart_singleBlanks_of_endsAt h
  have hstrip := strip_ne_nil hfilled hstart
  unfold strip at hstrip
  rwa [hstart] at hstrip

/-- **One word in front** of blanks, or of the end of the text. -/
theorem stripEnd_singleBlanks_word {word back : Text} (hword : ∀ c ∈ word, isBlank c = false)
    (hback : ∀ d, back.head? = some d → isBlank d = true)
    (hrest : stripEnd (singleBlanks (stripStart back)) = joinWith [' '] (words back)) :
    stripEnd (singleBlanks (word ++ back)) = joinWith [' '] (word :: words back) := by
  rw [singleBlanks_append hword]
  cases back with
  | nil =>
      show stripEnd (word ++ []) = word
      rw [List.append_nil, stripEnd_of_not_blank hword]
  | cons d back =>
      have hd : isBlank d = true := hback d rfl
      have hstart : stripStart (d :: back) = stripStart back := List.dropWhile_cons_of_pos hd
      rw [hstart] at hrest
      rw [singleBlanks_cons_blank hd]
      by_cases hnil : stripStart back = []
      · -- the blanks behind the last word
        have hwords : words (d :: back) = [] := by
          rw [← words_stripStart, hstart, hnil]
          rfl
        have hblank : ∀ c ∈ [' '], isBlank c = true := List.forall_mem_singleton.mpr (by decide)
        rw [hnil, hwords]
        exact (dropEndWhile_append word hblank).trans (stripEnd_of_not_blank hword)
      · have hleft := stripEnd_singleBlanks_ne_nil hnil (endsAt_dropWhile back)
        have hkept : stripEnd ((word ++ [' ']) ++ singleBlanks (stripStart back)) =
            (word ++ [' ']) ++ stripEnd (singleBlanks (stripStart back)) :=
          dropEndWhile_append_of_ne_nil _ hleft
        obtain ⟨next, others, hnext⟩ : ∃ next others, words (d :: back) = next :: others :=
          List.exists_cons_of_ne_nil fun hnone => hleft (by rw [hrest, hnone]; rfl)
        rw [List.append_cons, hkept, hrest, hnext]
        rfl

/-- **A text that begins with a word**, with single blanks and none at its end, is its words with
blanks between them. -/
theorem stripEnd_singleBlanks {s : Text} (h : EndsAt isBlank s) :
    stripEnd (singleBlanks s) = joinWith [' '] (words s) := by
  match s with
  | [] => rfl
  | c :: rest =>
      obtain ⟨word, back, hsplit, hback, hne, hword⟩ :=
        exists_firstWord (s := c :: rest) rfl (endsAt_cons.mp h)
      have hshorter : (stripStart back).length < (c :: rest).length := by
        have hlength : (stripStart back).length ≤ back.length :=
          (List.dropWhile_suffix isBlank).length_le
        have hpos : 0 < word.length := List.length_pos_iff.mpr hne
        rw [hsplit, List.length_append]
        omega
      have hrest : stripEnd (singleBlanks (stripStart back)) = joinWith [' '] (words back) := by
        rw [← words_stripStart]
        exact stripEnd_singleBlanks (endsAt_dropWhile back)
      have hwords : words (word ++ back) = word :: words back := by
        rw [words_append_of_apart (.inr hback), words_of_not_blank hne hword, List.singleton_append]
      rw [hsplit, hwords]
      exact stripEnd_singleBlanks_word hword hback hrest
termination_by s.length
decreasing_by exact hshorter

/-- **The words of a text with single blanks between them.** -/
theorem strip_singleBlanks (s : Text) : strip (singleBlanks s) = joinWith [' '] (words s) := by
  have hends : EndsAt isBlank (stripStart s) := endsAt_dropWhile s
  rw [strip, stripStart_singleBlanks, stripEnd_singleBlanks hends, words_stripStart]

end NoteVault
