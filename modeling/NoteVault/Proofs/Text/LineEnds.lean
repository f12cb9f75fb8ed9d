import NoteVault.Proofs.Text.Lines

/-!
# The line ends that a text has

Splitting a text into lines forgets which end each line had. Here the ends are kept beside the
lines, so that the text can be put together again as it was: lines and ends in turn. A line of
a text then has a place, with everything before it and everything from its end on, whatever
ends these parts are made of.

Joining with one line end puts that end wherever the text had an end. It is never shorter than
the end it stands for, because a bare line feed is put only into a text without carriage
returns. So the joined lines are as long as the text only if all ends were that one, and a
changed line leaves the rest of the text alone under the same condition.

## Main results

* `weave_splitLines` — the lines of a text and its ends in turn are the text.
* `beforeLine_append_fromLineEnd` — the text before a line, the line, and the text from its end
  on.
* `joinLines_set_eq_iff` — when a changed line leaves the rest of a text as it was.
-/

namespace NoteVault.Text

/-- The line ends of a text, one after the other. -/
def lineEnds : Text → List Text
  | [] => []
  | '\n' :: rest => ['\n'] :: lineEnds rest
  | '\r' :: '\n' :: rest => ['\r', '\n'] :: lineEnds rest
  | _ :: rest => lineEnds rest

/-- Lines and line ends in turn. -/
def weave : List Text → List Text → Text
  | [], _ => []
  | line :: _, [] => line
  | line :: lines, lineEnd :: ends => line ++ lineEnd ++ weave lines ends

/-- The text before one of its lines. -/
def beforeLine (s : Text) (i : Nat) : Text :=
  (List.zipWith (· ++ ·) ((splitLines s).take i) (lineEnds s)).flatten

/-- The text from the end of one of its lines on. -/
def fromLineEnd (s : Text) (i : Nat) : Text :=
  (List.zipWith (· ++ ·) ((lineEnds s).drop i) ((splitLines s).drop (i + 1))).flatten

/-! ## Lines and ends in turn -/

theorem lineEnds_cons {c : Char} {rest : Text} (hlf : c ≠ '\n')
    (hcrlf : ∀ tail, c = '\r' → rest ≠ '\n' :: tail) : lineEnds (c :: rest) = lineEnds rest := by
  rw [lineEnds.eq_def]
  split
  · next h => cases h
  · next h => cases h; exact absurd rfl hlf
  · next h => cases h; exact absurd rfl (hcrlf _ rfl)
  · next h => cases h; rfl

/-- There is one more line than there are ends. -/
theorem length_splitLines (s : Text) : (splitLines s).length = (lineEnds s).length + 1 := by
  fun_induction splitLines s with
  | case1 => rfl
  | case2 rest ih => simp [lineEnds, ih]
  | case3 rest ih => simp [lineEnds, ih]
  | case4 c rest hnil => exact absurd ‹_› (splitLines_ne_nil rest)
  | case5 c rest hlf hcrlf line lines hrest ih =>
      rw [lineEnds_cons hlf fun tail hc hrest => hcrlf tail hc hrest]
      rw [hrest] at ih
      exact ih

/-- **The lines of a text and its ends in turn are the text.** -/
theorem weave_splitLines (s : Text) : weave (splitLines s) (lineEnds s) = s := by
  fun_induction splitLines s with
  | case1 => rfl
  | case2 rest ih => simp [lineEnds, weave, ih]
  | case3 rest ih => simp [lineEnds, weave, ih]
  | case4 c rest hnil => exact absurd ‹_› (splitLines_ne_nil rest)
  | case5 c rest hlf hcrlf line lines hrest ih =>
      rw [lineEnds_cons hlf fun tail hc hrest => hcrlf tail hc hrest]
      rw [hrest] at ih
      cases hends : lineEnds rest with
      | nil =>
          rw [hends] at ih
          exact congrArg (c :: ·) ih
      | cons e ends =>
          rw [hends] at ih
          exact congrArg (c :: ·) ih

theorem weave_cons {lines ends : List Text} (line : Text) (h : lines.length = ends.length) :
    weave (line :: lines) ends = line ++ (List.zipWith (· ++ ·) ends lines).flatten := by
  induction lines generalizing line ends with
  | nil =>
      obtain rfl : ends = [] := List.eq_nil_of_length_eq_zero h.symm
      simp [weave]
  | cons next lines ih =>
      cases ends with
      | nil => cases h
      | cons e ends =>
          have hlength : lines.length = ends.length := Nat.succ.inj h
          rw [weave, ih next hlength]
          simp

/-- Lines and ends in turn, cut at a line. -/
theorem weave_cut {lines ends : List Text} {i : Nat} (h : lines.length = ends.length + 1)
    (hi : i < lines.length) :
    weave lines ends = (List.zipWith (· ++ ·) (lines.take i) ends).flatten ++ lines[i] ++
      (List.zipWith (· ++ ·) (ends.drop i) (lines.drop (i + 1))).flatten := by
  induction i generalizing lines ends with
  | zero =>
      obtain ⟨line, lines, rfl⟩ := List.exists_cons_of_length_eq_add_one h
      simp [weave_cons line (Nat.succ.inj h)]
  | succ i ih =>
      obtain ⟨line, lines, rfl⟩ := List.exists_cons_of_length_eq_add_one h
      cases ends with
      | nil =>
          have hlength : (line :: lines).length = 1 := h
          omega
      | cons e ends =>
          have hlength : lines.length = ends.length + 1 := Nat.succ.inj h
          rw [weave, ih hlength (Nat.lt_of_succ_lt_succ hi)]
          simp

/-- **A line stands between the text before it and the text from its end on.** -/
theorem beforeLine_append_fromLineEnd {s : Text} {i : Nat} (hi : i < (splitLines s).length) :
    beforeLine s i ++ (splitLines s)[i] ++ fromLineEnd s i = s := by
  unfold beforeLine fromLineEnd
  rw [← weave_cut (length_splitLines s) hi, weave_splitLines]

/-! ## Lengths -/

/-- A line end is a line feed, with a carriage return before it only if the text has one. -/
theorem mem_lineEnds {s e : Text} (h : e ∈ lineEnds s) :
    e = ['\n'] ∨ e = ['\r', '\n'] ∧ '\r' ∈ s := by
  fun_induction lineEnds s with
  | case1 => cases h
  | case2 rest ih =>
      rcases List.mem_cons.mp h with rfl | h
      · exact Or.inl rfl
      · exact (ih h).imp_right (And.imp_right (List.mem_cons_of_mem _))
  | case3 rest ih =>
      rcases List.mem_cons.mp h with rfl | h
      · exact Or.inr ⟨rfl, List.mem_cons_self⟩
      · exact (ih h).imp_right (And.imp_right fun hmem =>
          List.mem_cons_of_mem _ (List.mem_cons_of_mem _ hmem))
  | case4 c rest hlf hcrlf ih => exact (ih h).imp_right (And.imp_right (List.mem_cons_of_mem _))

/-- No end of a text is longer than the one its lines are joined with. -/
theorem length_le_lineEndOf {s e : Text} (h : e ∈ lineEnds s) :
    e.length ≤ (lineEndOf s).length := by
  unfold lineEndOf
  rcases mem_lineEnds h with rfl | ⟨rfl, hcr⟩
  · split <;> simp
  · refine Nat.le_of_eq ?_
    rw [if_pos (List.contains_iff_mem.mpr hcr)]

/-- An end that is as long as the one the lines are joined with is that one. -/
theorem eq_lineEndOf_of_length {s e : Text} (h : e ∈ lineEnds s)
    (hlength : e.length = (lineEndOf s).length) : e = lineEndOf s := by
  unfold lineEndOf at hlength ⊢
  rcases mem_lineEnds h with rfl | ⟨rfl, hcr⟩
  · split at hlength
    · cases hlength
    · next hcr => rw [if_neg hcr]
  · rw [if_pos (List.contains_iff_mem.mpr hcr)]

theorem length_flatten_le {parts : List Text} {k : Nat} (h : ∀ p ∈ parts, p.length ≤ k) :
    parts.flatten.length ≤ parts.length * k := by
  induction parts with
  | nil => simp
  | cons p parts ih =>
      have hp := h p List.mem_cons_self
      have hrest := ih fun q hq => h q (List.mem_cons_of_mem _ hq)
      rw [List.flatten_cons, List.length_append, List.length_cons, Nat.succ_mul]
      omega

/-- Parts of bounded length that together have the greatest possible length are all of that
length. -/
theorem length_eq_of_length_flatten {parts : List Text} {k : Nat}
    (h : ∀ p ∈ parts, p.length ≤ k) (hall : parts.flatten.length = parts.length * k) :
    ∀ p ∈ parts, p.length = k := by
  induction parts with
  | nil => simp
  | cons p parts ih =>
      have hp := h p List.mem_cons_self
      have hle : ∀ q ∈ parts, q.length ≤ k := fun q hq => h q (List.mem_cons_of_mem _ hq)
      have hrest := length_flatten_le hle
      rw [List.flatten_cons, List.length_append, List.length_cons, Nat.succ_mul] at hall
      intro q hq
      rcases List.mem_cons.mp hq with rfl | hq
      · omega
      · exact ih hle (by omega) q hq

theorem length_weave {lines ends : List Text} (h : lines.length = ends.length + 1) :
    (weave lines ends).length = lines.flatten.length + ends.flatten.length := by
  induction ends generalizing lines with
  | nil =>
      obtain ⟨line, rfl⟩ := List.length_eq_one_iff.mp h
      simp [weave]
  | cons e ends ih =>
      obtain ⟨line, lines, rfl⟩ := List.exists_cons_of_length_eq_add_one h
      rw [weave, List.length_append, List.length_append, ih (Nat.succ.inj h)]
      simp only [List.flatten_cons, List.length_append]
      omega

theorem length_joinLines {lines : List Text} (lineEnd : Text) {k : Nat}
    (h : lines.length = k + 1) :
    (joinLines lineEnd lines).length = lines.flatten.length + k * lineEnd.length := by
  induction k generalizing lines with
  | zero =>
      obtain ⟨line, rfl⟩ := List.length_eq_one_iff.mp h
      simp [joinLines_cons]
  | succ k ih =>
      obtain ⟨line, lines, rfl⟩ := List.exists_cons_of_length_eq_add_one h
      obtain ⟨next, rest, rfl⟩ := List.exists_cons_of_length_eq_add_one (Nat.succ.inj h)
      have hjoin : joinLines lineEnd (line :: next :: rest) =
          line ++ lineEnd ++ joinLines lineEnd (next :: rest) := rfl
      rw [hjoin, List.length_append, List.length_append, ih (Nat.succ.inj h), Nat.succ_mul]
      simp only [List.flatten_cons, List.length_append]
      omega

/-- Joined lines that are as long as the text are joined with the ends the text has. -/
theorem eq_lineEndOf_of_length_joinLines {s : Text}
    (h : (joinLines (lineEndOf s) (splitLines s)).length = s.length) :
    ∀ e ∈ lineEnds s, e = lineEndOf s := by
  have hlines := length_splitLines s
  have hjoin := length_joinLines (lineEndOf s) hlines
  have hweave := length_weave hlines
  rw [weave_splitLines] at hweave
  have hends : (lineEnds s).flatten.length = (lineEnds s).length * (lineEndOf s).length := by
    omega
  intro e he
  refine eq_lineEndOf_of_length he ?_
  exact length_eq_of_length_flatten (fun p hp => length_le_lineEndOf hp) hends e he

/-! ## A changed line -/

theorem zipWith_append_ends {lines ends : List Text} {lineEnd : Text}
    (hlength : lines.length ≤ ends.length) (h : ∀ e ∈ ends, e = lineEnd) :
    (List.zipWith (· ++ ·) lines ends).flatten = lines.flatMap (· ++ lineEnd) := by
  induction lines generalizing ends with
  | nil => rfl
  | cons line lines ih =>
      cases ends with
      | nil => cases hlength
      | cons e ends =>
          have hrest := ih (Nat.le_of_succ_le_succ hlength)
            fun x hx => h x (List.mem_cons_of_mem _ hx)
          rw [List.zipWith_cons_cons, List.flatten_cons, hrest, h e List.mem_cons_self,
            List.flatMap_cons]

theorem zipWith_ends_append {lines ends : List Text} {lineEnd : Text}
    (hlength : lines.length ≤ ends.length) (h : ∀ e ∈ ends, e = lineEnd) :
    (List.zipWith (· ++ ·) ends lines).flatten = lines.flatMap (lineEnd ++ ·) := by
  induction lines generalizing ends with
  | nil => simp
  | cons line lines ih =>
      cases ends with
      | nil => cases hlength
      | cons e ends =>
          have hrest := ih (Nat.le_of_succ_le_succ hlength)
            fun x hx => h x (List.mem_cons_of_mem _ hx)
          rw [List.zipWith_cons_cons, List.flatten_cons, hrest, h e List.mem_cons_self,
            List.flatMap_cons]

theorem joinLines_set_eq (lineEnd new : Text) {lines : List Text} {i : Nat}
    (hi : i < lines.length) :
    joinLines lineEnd (lines.set i new) = (lines.take i).flatMap (· ++ lineEnd) ++ new ++
      (lines.drop (i + 1)).flatMap (lineEnd ++ ·) := by
  rw [set_eq_replace hi, joinLines_splice (List.cons_ne_nil _ _), joinLines_cons]
  simp

/-- **When a changed line leaves the rest of a text as it was**: if and only if every line end
of the text is the one that its lines are joined with. -/
theorem joinLines_set_eq_iff {s : Text} {i : Nat} (hi : i < (splitLines s).length) (new : Text) :
    joinLines (lineEndOf s) ((splitLines s).set i new) =
        beforeLine s i ++ new ++ fromLineEnd s i ↔
      ∀ e ∈ lineEnds s, e = lineEndOf s := by
  have hlines := length_splitLines s
  constructor
  · intro h
    refine eq_lineEndOf_of_length_joinLines ?_
    -- put the old line back on both sides
    have hold := joinLines_set_eq (lineEndOf s) (splitLines s)[i] hi
    rw [List.set_getElem_self] at hold
    have hs := beforeLine_append_fromLineEnd hi
    have hlength := congrArg List.length h
    rw [joinLines_set_eq (lineEndOf s) new hi] at hlength
    rw [hold, ← congrArg List.length hs]
    simp only [List.length_append] at hlength ⊢
    omega
  · intro h
    have hbefore : beforeLine s i = ((splitLines s).take i).flatMap (· ++ lineEndOf s) := by
      refine zipWith_append_ends ?_ h
      rw [List.length_take]
      omega
    have hfrom : fromLineEnd s i =
        ((splitLines s).drop (i + 1)).flatMap (lineEndOf s ++ ·) := by
      refine zipWith_ends_append ?_ fun e he => h e (List.mem_of_mem_drop he)
      rw [List.length_drop, List.length_drop]
      omega
    rw [joinLines_set_eq (lineEndOf s) new hi, hbefore, hfrom]

end NoteVault.Text
