import NoteVault.Proofs.Text.Lines
import NoteVault.Proofs.Text.Span
import NoteVault.Proofs.Text.Strip

/-!
# Words

The words of a text are its pieces between runs of blanks. A blank cuts the words of a text in
two, and that one fact gives all the others: blanks at the ends of a text play no role, and where
two texts meet at a blank, the words of both are the words of the whole.

Where they do not meet at a blank, there is a word on either side of the seam, and the two become
one word.

## Main results

* `words_append_cons` — a blank cuts the words of a text.
* `words_append_of_not_apart` — two words become one.
* `words_append_iff` — when the words of two texts are those of the whole.
-/

namespace NoteVault.Text

/-! ## Cutting at a blank -/

/-- A text is cut where a character is to be cut at. -/
theorem splitWhere_append_sep {p : Char → Bool} {c : Char} (hc : p c = true) (s t : Text) :
    splitWhere p (s ++ c :: t) = splitWhere p s ++ splitWhere p t := by
  induction s with
  | nil =>
      show splitWhere p (c :: t) = [] :: splitWhere p t
      rw [splitWhere, if_pos hc]
  | cons d s ih =>
      rw [List.cons_append, splitWhere, splitWhere, ih]
      by_cases hd : p d = true
      · rw [if_pos hd, if_pos hd, List.cons_append]
      · obtain ⟨piece, pieces, hs⟩ := List.exists_cons_of_ne_nil (splitWhere_ne_nil p s)
        rw [if_neg hd, if_neg hd, hs]
        rfl

/-- **A blank cuts the words of a text.** -/
theorem words_append_cons {c : Char} (hc : isBlank c = true) (s t : Text) :
    words (s ++ c :: t) = words s ++ words t := by
  unfold words
  rw [splitWhere_append_sep hc, List.filter_append]

theorem words_cons_blank {c : Char} (hc : isBlank c = true) (s : Text) :
    words (c :: s) = words s :=
  words_append_cons hc [] s

/-- Blanks have no words. -/
theorem words_of_blank {blanks : Text} (h : ∀ c ∈ blanks, isBlank c = true) :
    words blanks = [] := by
  induction blanks with
  | nil => rfl
  | cons c blanks ih =>
      rw [words_cons_blank (h c List.mem_cons_self)]
      exact ih fun d hd => h d (List.mem_cons_of_mem c hd)

/-- Characters that are not blank are one word. -/
theorem words_of_not_blank {word : Text} (hne : word ≠ []) (h : ∀ c ∈ word, isBlank c = false) :
    words word = [word] := by
  unfold words
  rw [splitWhere_of_forall h]
  simp [hne]

/-! ## Two texts one after the other -/

/-- Two texts meet at a blank, or one of them has nothing at the seam. -/
def Apart (s t : Text) : Prop :=
  (∀ c, s.getLast? = some c → isBlank c = true) ∨ ∀ c, t.head? = some c → isBlank c = true

instance (s t : Text) : Decidable (Apart s t) :=
  decidable_of_iff (s.getLast?.all isBlank = true ∨ t.head?.all isBlank = true)
    (or_congr (Option.all_eq_true _ _) (Option.all_eq_true _ _))

/-- **Where two texts meet at a blank**, the words of both are the words of the whole. -/
theorem words_append_of_apart {s t : Text} (h : Apart s t) : words (s ++ t) = words s ++ words t := by
  rcases h with hs | ht
  · rcases List.eq_nil_or_concat s with rfl | ⟨front, c, rfl⟩
    · rfl
    · have hc : isBlank c = true := hs c (by simp)
      have hfront : words (front ++ [c]) = words front := by
        rw [words_append_cons hc]
        exact List.append_nil _
      rw [List.concat_eq_append, hfront, List.append_assoc, List.singleton_append,
        words_append_cons hc]
  · cases t with
    | nil =>
        rw [List.append_nil]
        exact (List.append_nil _).symm
    | cons c back =>
        have hc : isBlank c = true := ht c rfl
        rw [words_append_cons hc, words_cons_blank hc]

/-- Blanks in front of a text play no role. -/
theorem words_blank_append {blanks : Text} (h : ∀ c ∈ blanks, isBlank c = true) (s : Text) :
    words (blanks ++ s) = words s := by
  have hapart : Apart blanks s := Or.inl fun c hc => h c (List.mem_of_getLast? hc)
  rw [words_append_of_apart hapart, words_of_blank h, List.nil_append]

theorem words_stripStart (s : Text) : words (stripStart s) = words s := by
  have hsplit : s.takeWhile isBlank ++ stripStart s = s := List.takeWhile_append_dropWhile
  rw [← words_blank_append (fun c hc => List.mem_takeWhile_imp hc) (stripStart s), hsplit]

/-- Blanks behind a text play no role. -/
theorem words_append_blank {blanks : Text} (h : ∀ c ∈ blanks, isBlank c = true) (s : Text) :
    words (s ++ blanks) = words s := by
  have hapart : Apart s blanks := Or.inr fun c hc => h c (List.mem_of_mem_head? hc)
  rw [words_append_of_apart hapart, words_of_blank h, List.append_nil]

/-! ## Words at a seam -/

/-- A text that does not end with a blank ends with a word. -/
theorem exists_lastWord {s : Text} {c : Char} (hlast : s.getLast? = some c)
    (hc : isBlank c = false) :
    ∃ front word, s = front ++ word ∧ (∀ d, front.getLast? = some d → isBlank d = true) ∧
      word ≠ [] ∧ ∀ d ∈ word, isBlank d = false := by
  obtain ⟨word, hs, hword⟩ := exists_dropEndWhile_append (!isBlank ·) s
  have hfront : ∀ d, (dropEndWhile (!isBlank ·) s).getLast? = some d → (!isBlank d) = false :=
    dropEndWhile_eq_self_iff.mp (dropEndWhile_dropEndWhile _ s)
  refine ⟨_, word, hs, fun d hd => by simpa using hfront d hd, ?_, fun d hd => ?_⟩
  · rintro rfl
    rw [List.append_nil] at hs
    have hblank := hfront c (hs ▸ hlast)
    simp [hc] at hblank
  · simpa using hword d hd

/-- A text that does not begin with a blank begins with a word. -/
theorem exists_firstWord {s : Text} {c : Char} (hfirst : s.head? = some c)
    (hc : isBlank c = false) :
    ∃ word back, s = word ++ back ∧ (∀ d, back.head? = some d → isBlank d = true) ∧
      word ≠ [] ∧ ∀ d ∈ word, isBlank d = false := by
  obtain ⟨rest, rfl⟩ : ∃ rest, s = c :: rest := List.head?_eq_some_iff.mp hfirst
  refine ⟨(c :: rest).takeWhile (!isBlank ·), (c :: rest).dropWhile (!isBlank ·),
    List.takeWhile_append_dropWhile.symm, fun d hd => ?_, ?_, fun d hd => ?_⟩
  · simpa using endsAt_dropWhile (c :: rest) d hd
  · simp [hc]
  · simpa using List.mem_takeWhile_imp hd

/-- **Two words become one** where two texts do not meet at a blank. -/
theorem words_append_of_not_apart {s t : Text} (h : ¬ Apart s t) :
    ∃ before word word' after, words s = before ++ [word] ∧ words t = word' :: after ∧
      words (s ++ t) = before ++ (word ++ word') :: after := by
  unfold Apart at h
  push Not at h
  obtain ⟨⟨c, hlast, hc⟩, d, hfirst, hd⟩ := h
  obtain ⟨front, word, rfl, hfront, hne, hword⟩ := exists_lastWord hlast (eq_false_of_ne_true hc)
  obtain ⟨word', back, rfl, hback, hne', hword'⟩ := exists_firstWord hfirst (eq_false_of_ne_true hd)
  have hjoined : ∀ e ∈ word ++ word', isBlank e = false := fun e he =>
    (List.mem_append.mp he).elim (hword e) (hword' e)
  refine ⟨words front, word, word', words back, ?_, ?_, ?_⟩
  · rw [words_append_of_apart (.inl hfront), words_of_not_blank hne hword]
  · rw [words_append_of_apart (.inr hback), words_of_not_blank hne' hword']
    rfl
  · calc words (front ++ word ++ (word' ++ back))
        = words (front ++ (word ++ word' ++ back)) := by simp only [List.append_assoc]
      _ = words front ++ (words (word ++ word') ++ words back) := by
          rw [words_append_of_apart (.inl hfront), words_append_of_apart (.inr hback)]
      _ = words front ++ (word ++ word') :: words back := by
          rw [words_of_not_blank (List.append_ne_nil_of_left_ne_nil hne _) hjoined]
          rfl

/-- **When the words of two texts are those of the whole.** -/
theorem words_append_iff (s t : Text) : words (s ++ t) = words s ++ words t ↔ Apart s t := by
  constructor
  · intro h
    by_contra hnot
    obtain ⟨before, word, word', after, hs, ht, hst⟩ := words_append_of_not_apart hnot
    -- there is one word less
    have hlength := congrArg List.length h
    rw [hs, ht, hst] at hlength
    simp only [List.length_append, List.length_cons, List.length_nil] at hlength
    omega
  · exact words_append_of_apart

end NoteVault.Text
