import Mathlib.Data.List.DropRight
import NoteVault.Text.Blank
import NoteVault.Text.Digit

/-!
# Texts without blanks at their ends

A text is stripped if it has no blank at either end. Stripping a text cuts a piece out of
it, and what is stripped stays as it is.

Blanks and digits are given by tables; that no character is both is checked on the tables,
once for each of the few blanks.

## Main results

* `stripStart_strip` — a stripped text begins with no blank.
* `strip_strip`, `strip_ne_nil` — stripping once is enough, and leaves more than nothing.
* `getLast?_strip_ne` — a stripped text ends with no blank.
* `isDigit_of_isBlank` — a blank is no digit.
-/

namespace NoteVault.Text

/-! ## Blanks -/

theorem exists_mem_of_inRanges {ranges : Ranges} {n : Nat} (h : inRanges ranges n = true) :
    ∃ range ∈ ranges, range.1 ≤ n ∧ n ≤ range.2 := by
  induction ranges with
  | nil => cases h
  | cons range ranges ih =>
      unfold inRanges at h
      split at h
      · cases h
      · next hlo =>
          split at h
          · next hhi => exact ⟨range, List.mem_cons_self, Nat.le_of_not_lt hlo, hhi⟩
          · obtain ⟨other, hmem, hn⟩ := ih h
            exact ⟨other, List.mem_cons_of_mem _ hmem, hn⟩

/-- The code points of the blanks are no digits. -/
theorem digitAmong_blankRanges :
    ∀ range ∈ blankRanges, ∀ d < range.2 + 1 - range.1,
      digitAmong digitZeros (range.1 + d) = none := by
  decide

/-- A blank is no digit. -/
theorem isDigit_of_isBlank {c : Char} (h : isBlank c = true) : isDigit c = false := by
  obtain ⟨range, hmem, hlo, hhi⟩ := exists_mem_of_inRanges h
  have hnone := digitAmong_blankRanges range hmem (c.toNat - range.1) (by omega)
  rw [Nat.add_sub_cancel' hlo] at hnone
  unfold isDigit digitValue?
  rw [hnone]
  rfl

theorem isBlank_of_isDigit {c : Char} (h : isDigit c = true) : isBlank c = false := by
  by_contra hblank
  rw [isDigit_of_isBlank (eq_true_of_ne_false hblank)] at h
  cases h

/-! ## Cutting off blanks -/

theorem dropEndWhile_eq_rdropWhile (p : Char → Bool) (s : Text) :
    dropEndWhile p s = s.rdropWhile p := by
  induction s with
  | nil => rfl
  | cons c rest ih =>
      unfold dropEndWhile
      rw [ih]
      unfold List.rdropWhile
      rw [List.reverse_cons, List.dropWhile_append]
      cases hrest : rest.reverse.dropWhile p with
      | nil =>
          by_cases hc : p c = true
          · simp [hc]
          · simp [hc]
      | cons d ds => simp

/-- What is cut off an end are characters that were to be cut off. -/
theorem exists_dropEndWhile_append (p : Char → Bool) (s : Text) :
    ∃ cut, s = dropEndWhile p s ++ cut ∧ ∀ c ∈ cut, p c = true := by
  refine ⟨s.rtakeWhile p, ?_, fun c hc => List.mem_rtakeWhile_imp hc⟩
  rw [dropEndWhile_eq_rdropWhile]
  exact List.rdropWhile_append_rtakeWhile.symm

theorem dropEndWhile_append {p : Char → Bool} {cut : Text} (s : Text)
    (h : ∀ c ∈ cut, p c = true) : dropEndWhile p (s ++ cut) = dropEndWhile p s := by
  have hall : ∀ c ∈ cut.reverse, p c = true := fun c hc => h c (List.mem_reverse.mp hc)
  rw [dropEndWhile_eq_rdropWhile, dropEndWhile_eq_rdropWhile]
  unfold List.rdropWhile
  rw [List.reverse_append, List.dropWhile_append_of_pos hall]

/-- Where something is left of the second text, nothing is cut off the first. -/
theorem dropEndWhile_append_of_ne_nil {p : Char → Bool} (s : Text) {t : Text}
    (h : dropEndWhile p t ≠ []) : dropEndWhile p (s ++ t) = s ++ dropEndWhile p t := by
  induction s with
  | nil => rfl
  | cons c s ih =>
      have hkept : s ++ dropEndWhile p t ≠ [] := List.append_ne_nil_of_right_ne_nil s h
      obtain ⟨d, kept, hd⟩ := List.exists_cons_of_ne_nil hkept
      rw [List.cons_append, dropEndWhile, ih, hd]
      rw [List.cons_append, hd]

/-- A blank in front of something that is not cut off stays. -/
theorem dropEndWhile_cons {p : Char → Bool} {c : Char} {s : Text}
    (h : ¬ ∀ d ∈ c :: s, p d = true) : dropEndWhile p (c :: s) = c :: dropEndWhile p s := by
  rw [dropEndWhile]
  cases hrest : dropEndWhile p s with
  | nil =>
      have hc : p c = false := by
        by_contra hc
        rw [dropEndWhile_eq_rdropWhile, List.rdropWhile_eq_nil_iff] at hrest
        exact h (List.forall_mem_cons.mpr ⟨eq_true_of_ne_false hc, hrest⟩)
      rw [hc]
      rfl
  | cons d kept => rfl

theorem dropEndWhile_dropEndWhile (p : Char → Bool) (s : Text) :
    dropEndWhile p (dropEndWhile p s) = dropEndWhile p s := by
  rw [dropEndWhile_eq_rdropWhile, dropEndWhile_eq_rdropWhile]
  exact List.rdropWhile_idempotent p s

/-- A text from whose end nothing is cut off. -/
theorem dropEndWhile_eq_self_iff {p : Char → Bool} {s : Text} :
    dropEndWhile p s = s ↔ ∀ c, s.getLast? = some c → p c = false := by
  rw [dropEndWhile_eq_rdropWhile, List.rdropWhile_eq_self_iff]
  constructor
  · intro h c hc
    have hne : s ≠ [] := by
      rintro rfl
      cases hc
    rw [List.getLast?_eq_some_getLast hne] at hc
    rw [← Option.some.inj hc]
    exact eq_false_of_ne_true (h hne)
  · intro h hne
    exact ne_true_of_eq_false (h _ (List.getLast?_eq_some_getLast hne))

theorem strip_isPrefix (s : Text) : strip s <+: stripStart s := by
  unfold strip stripEnd
  rw [dropEndWhile_eq_rdropWhile]
  exact List.rdropWhile_prefix isBlank _

/-- Stripping only takes away. -/
theorem mem_of_mem_strip {s : Text} {c : Char} (h : c ∈ strip s) : c ∈ s :=
  (List.dropWhile_suffix isBlank).subset ((strip_isPrefix s).subset h)

theorem stripStart_eq_self_of_head? {s : Text} (h : ∀ c, s.head? = some c → isBlank c = false) :
    stripStart s = s := by
  unfold stripStart
  cases s with
  | nil => rfl
  | cons c rest => rw [List.dropWhile_cons, h c rfl]; rfl

theorem stripStart_append (s : Text) {back : Text}
    (h : ∀ c, back.head? = some c → isBlank c = false) :
    stripStart (s ++ back) = stripStart s ++ back := by
  unfold stripStart
  rw [List.dropWhile_append]
  split
  · next hnil =>
      rw [List.isEmpty_iff.mp hnil, List.nil_append]
      exact stripStart_eq_self_of_head? h
  · rfl

theorem head?_stripStart {s : Text} {c : Char} (h : (stripStart s).head? = some c) :
    isBlank c = false := by
  have hnot := List.head?_dropWhile_not isBlank s
  unfold stripStart at h
  rw [h] at hnot
  exact hnot

theorem stripStart_stripStart (s : Text) : stripStart (stripStart s) = stripStart s :=
  stripStart_eq_self_of_head? fun _ => head?_stripStart

/-- **A stripped text begins with no blank.** -/
theorem stripStart_strip (s : Text) : stripStart (strip s) = strip s := by
  refine stripStart_eq_self_of_head? fun c hc => ?_
  obtain ⟨rest, hrest⟩ := strip_isPrefix s
  have hhead : (stripStart s).head? = some c := by
    rw [← hrest, List.head?_append, hc]
    rfl
  exact head?_stripStart hhead

/-- Stripping once is enough. -/
theorem strip_strip (s : Text) : strip (strip s) = strip s := by
  have hstart := stripStart_strip s
  unfold strip stripEnd at hstart ⊢
  rw [hstart, dropEndWhile_eq_rdropWhile, dropEndWhile_eq_rdropWhile]
  exact List.rdropWhile_idempotent isBlank _

theorem strip_stripStart (s : Text) : strip (stripStart s) = strip s := by
  unfold strip
  rw [stripStart_stripStart]

/-- Blanks around a text are stripped away with its own. -/
theorem strip_surrounded {front back : Text} (s : Text) (hfront : ∀ c ∈ front, isBlank c = true)
    (hback : ∀ c ∈ back, isBlank c = true) : strip (front ++ (s ++ back)) = strip s := by
  have hstart : stripStart (front ++ (s ++ back)) = stripStart (s ++ back) :=
    List.dropWhile_append_of_pos hfront
  unfold strip
  rw [hstart]
  unfold stripStart stripEnd
  rw [List.dropWhile_append]
  split
  · next hnil =>
      -- nothing but blanks
      rw [List.isEmpty_iff.mp hnil, List.dropWhile_eq_nil_iff.mpr hback]
  · exact dropEndWhile_append _ hback

/-- What has no blanks at its ends stays as it is. -/
theorem strip_eq_self {s : Text} (hhead : ∀ c, s.head? = some c → isBlank c = false)
    (hlast : ∀ c, s.getLast? = some c → isBlank c = false) : strip s = s := by
  unfold strip
  rw [stripStart_eq_self_of_head? hhead]
  exact dropEndWhile_eq_self_iff.mpr hlast

/-- What begins with no blank is not stripped away. -/
theorem strip_ne_nil {s : Text} (hne : s ≠ []) (hs : stripStart s = s) : strip s ≠ [] := by
  obtain ⟨c, rest, rfl⟩ := List.exists_cons_of_ne_nil hne
  have hc : isBlank c = false := head?_stripStart (congrArg List.head? hs)
  intro hnil
  unfold strip stripEnd at hnil
  rw [hs, dropEndWhile_eq_rdropWhile, List.rdropWhile_eq_nil_iff] at hnil
  exact Bool.false_ne_true (hc.symm.trans (hnil c List.mem_cons_self))

/-- **A stripped text ends with no blank.** -/
theorem getLast?_strip_ne {s : Text} {c : Char} (hc : isBlank c = true) :
    (strip s).getLast? ≠ some c := by
  intro hlast
  unfold strip stripEnd at hlast
  rw [dropEndWhile_eq_rdropWhile] at hlast
  unfold List.rdropWhile at hlast
  rw [List.getLast?_reverse] at hlast
  have hnot := List.head?_dropWhile_not isBlank (stripStart s).reverse
  rw [hlast] at hnot
  exact Bool.false_ne_true (hnot.symm.trans hc)

end NoteVault.Text
