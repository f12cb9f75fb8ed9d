import NoteVault.Text.Lines

/-!
# Lines and line ends

Lines put together with one line end come apart again as they were, provided that no
line runs into the end behind it: it has no line feed of its own, and before a bare line
feed it does not end with a carriage return. The lines of a text are such lines for the
line end with which a changed text is put together again, so every line that is not
touched survives being split off, joined and split off once more, whatever mixture of
ends the text had.

The other way round, splitting and joining gives back the text itself only if all its
ends are of one kind.

## Main results

* `splitLines_joinLines` — joined lines come apart again.
* `standsBefore_of_mem_splitLines` — the lines of a text can be joined with its line end.
* `splitLines_joinLines_replace` — so do the lines of a text with some of them replaced.
* `lineEndOf_joinLines` — joined lines have the line end they are joined with.
* `joinLines_splitLines` — a text with line ends of one kind is its joined lines.
* `joinLines_splice` — the text before and behind a block of lines.
-/

namespace NoteVault.Text

/-! ## Joining -/

theorem joinLines_cons (lineEnd line : Text) (lines : List Text) :
    joinLines lineEnd (line :: lines) = line ++ lines.flatMap (lineEnd ++ ·) := by
  unfold joinLines
  induction lines generalizing line with
  | nil => simp [joinWith]
  | cons next lines ih => rw [joinWith, ih, List.flatMap_cons, List.append_assoc]; simp

/-- Lines in front of others each come with their end. -/
theorem joinLines_append_right {lineEnd : Text} {front lines : List Text} (h : lines ≠ []) :
    joinLines lineEnd (front ++ lines) =
      front.flatMap (· ++ lineEnd) ++ joinLines lineEnd lines := by
  induction front with
  | nil => rfl
  | cons line front ih =>
      obtain ⟨next, rest, hnext⟩ := List.exists_cons_of_ne_nil
        (show front ++ lines ≠ [] from fun hnil => h (List.append_eq_nil_iff.mp hnil).2)
      rw [List.cons_append, joinLines_cons, List.flatMap_cons, List.append_assoc, ← ih, hnext,
        joinLines_cons, List.flatMap_cons]
      simp

/-- Lines behind others each come with the end before them. -/
theorem joinLines_append_left {lineEnd : Text} {lines back : List Text} (h : lines ≠ []) :
    joinLines lineEnd (lines ++ back) =
      joinLines lineEnd lines ++ back.flatMap (lineEnd ++ ·) := by
  obtain ⟨line, rest, rfl⟩ := List.exists_cons_of_ne_nil h
  rw [List.cons_append, joinLines_cons, joinLines_cons, List.flatMap_append, List.append_assoc]

/-- A block of lines stands between the lines before it, each with its end, and the lines
behind it, each with the end before it. -/
theorem joinLines_splice {lineEnd : Text} {front block back : List Text} (h : block ≠ []) :
    joinLines lineEnd (front ++ block ++ back) =
      front.flatMap (· ++ lineEnd) ++ joinLines lineEnd block ++
        back.flatMap (lineEnd ++ ·) := by
  rw [List.append_assoc, joinLines_append_right (by simp [h]), joinLines_append_left h,
    List.append_assoc]

/-- Every character of a line is one of the joined lines. -/
theorem mem_joinLines {lineEnd line : Text} {lines : List Text} (hline : line ∈ lines) {c : Char}
    (hc : c ∈ line) : c ∈ joinLines lineEnd lines := by
  cases lines with
  | nil => cases hline
  | cons first rest =>
      rw [joinLines_cons, List.mem_append, List.mem_flatMap]
      rcases List.mem_cons.mp hline with rfl | hline
      · exact Or.inl hc
      · exact Or.inr ⟨line, hline, List.mem_append_right _ hc⟩

/-- A character of joined lines is one of a line or of the line end. -/
theorem mem_or_mem_of_mem_joinLines {lineEnd : Text} {lines : List Text} {c : Char}
    (h : c ∈ joinLines lineEnd lines) : c ∈ lineEnd ∨ ∃ line ∈ lines, c ∈ line := by
  cases lines with
  | nil => cases h
  | cons first rest =>
      rw [joinLines_cons, List.mem_append, List.mem_flatMap] at h
      rcases h with h | ⟨line, hline, h⟩
      · exact Or.inr ⟨first, List.mem_cons_self, h⟩
      · exact (List.mem_append.mp h).imp_right fun h =>
          ⟨line, List.mem_cons_of_mem _ hline, h⟩

/-! ## Splitting -/

/-- A character that begins no line end belongs to the first line. -/
theorem splitLines_cons {c : Char} {rest : Text} (hlf : c ≠ '\n')
    (hcrlf : c = '\r' → rest.head? ≠ some '\n') :
    splitLines (c :: rest) = (splitLines rest).modifyHead (c :: ·) := by
  rw [splitLines.eq_def]
  split
  · next h => cases h
  · next h => cases h; exact absurd rfl hlf
  · next h => cases h; exact absurd rfl (hcrlf rfl)
  · next h =>
      cases h
      cases hrest : splitLines rest with
      | nil => exact absurd hrest (splitLines_ne_nil rest)
      | cons line lines => rfl

/-- A line that a line end behind it cuts off whole. -/
def StandsBefore (lineEnd line : Text) : Prop :=
  '\n' ∉ line ∧ (lineEnd = ['\r', '\n'] ∨ lineEnd = ['\n'] ∧ line.getLast? ≠ some '\r')

theorem splitLines_of_not_mem {line : Text} (h : '\n' ∉ line) : splitLines line = [line] := by
  induction line with
  | nil => rfl
  | cons c line ih =>
      rw [List.mem_cons, not_or] at h
      rw [splitLines_cons (Ne.symm h.1), ih h.2]
      · rfl
      · intro _ hhead
        exact h.2 (List.mem_of_mem_head? hhead)

/-- A line is cut off by the end behind it. -/
theorem splitLines_append {lineEnd line : Text} (h : StandsBefore lineEnd line) (rest : Text) :
    splitLines (line ++ lineEnd ++ rest) = line :: splitLines rest := by
  obtain ⟨hlf, hend⟩ := h
  induction line with
  | nil =>
      rcases hend with rfl | ⟨rfl, _⟩
      · rfl
      · rfl
  | cons c line ih =>
      rw [List.mem_cons, not_or] at hlf
      have htail : lineEnd = ['\r', '\n'] ∨ lineEnd = ['\n'] ∧ line.getLast? ≠ some '\r' := by
        refine hend.imp_right (And.imp_right fun hlast htail => hlast ?_)
        rw [List.getLast?_cons, htail]
        rfl
      have hhead : c = '\r' → (line ++ lineEnd ++ rest).head? ≠ some '\n' := by
        intro hc hhead
        cases line with
        | nil =>
            rcases hend with rfl | ⟨rfl, hlast⟩
            · cases hhead
            · exact hlast (congrArg some hc)
        | cons d line =>
            cases hhead
            exact hlf.2 List.mem_cons_self
      rw [List.cons_append, List.cons_append, splitLines_cons (Ne.symm hlf.1) hhead,
        ih hlf.2 htail]
      rfl

/-- **Joined lines come apart again.** -/
theorem splitLines_joinLines {lineEnd : Text} {lines : List Text} (hne : lines ≠ [])
    (h : ∀ line ∈ lines, StandsBefore lineEnd line) :
    splitLines (joinLines lineEnd lines) = lines := by
  induction lines with
  | nil => exact absurd rfl hne
  | cons line lines ih =>
      cases lines with
      | nil =>
          rw [joinLines_cons, List.flatMap_nil, List.append_nil]
          exact splitLines_of_not_mem (h line List.mem_cons_self).1
      | cons next rest =>
          have hjoin : joinLines lineEnd (line :: next :: rest) =
              line ++ lineEnd ++ joinLines lineEnd (next :: rest) := rfl
          rw [hjoin, splitLines_append (h line List.mem_cons_self),
            ih (List.cons_ne_nil _ _) fun l hl => h l (List.mem_cons_of_mem _ hl)]

/-! ## The lines of a text -/

/-- The lines of a text are made of its characters, without the line feeds. -/
theorem mem_of_mem_splitLines {s line : Text} (hline : line ∈ splitLines s) {c : Char}
    (hc : c ∈ line) : c ∈ s ∧ c ≠ '\n' := by
  fun_induction splitLines s generalizing line with
  | case1 =>
      rw [List.mem_singleton.mp hline] at hc
      cases hc
  | case2 rest ih =>
      rcases List.mem_cons.mp hline with rfl | hline
      · cases hc
      · exact (ih hline hc).imp_left (List.mem_cons_of_mem _)
  | case3 rest ih =>
      rcases List.mem_cons.mp hline with rfl | hline
      · cases hc
      · exact (ih hline hc).imp_left fun h => List.mem_cons_of_mem _ (List.mem_cons_of_mem _ h)
  | case4 d rest hnil => exact absurd ‹_› (splitLines_ne_nil rest)
  | case5 d rest hlf hcrlf first lines hrest ih =>
      rw [hrest] at ih
      rcases List.mem_cons.mp hline with rfl | hline
      · rcases List.mem_cons.mp hc with rfl | hc
        · exact ⟨List.mem_cons_self, hlf⟩
        · exact (ih List.mem_cons_self hc).imp_left (List.mem_cons_of_mem _)
      · exact (ih (List.mem_cons_of_mem _ hline) hc).imp_left (List.mem_cons_of_mem _)

theorem not_mem_of_mem_splitLines {s line : Text} (hline : line ∈ splitLines s) : '\n' ∉ line :=
  fun h => (mem_of_mem_splitLines hline h).2 rfl

theorem lineEndOf_of_mem {s : Text} (h : '\r' ∈ s) : lineEndOf s = ['\r', '\n'] := by
  unfold lineEndOf
  rw [if_pos (List.contains_iff_mem.mpr h)]

theorem lineEndOf_of_not_mem {s : Text} (h : '\r' ∉ s) : lineEndOf s = ['\n'] := by
  unfold lineEndOf
  rw [if_neg fun hmem => h (List.contains_iff_mem.mp hmem)]

/-- **Lines joined with the line end of a text have that line end again**, if there are two of
them to put a carriage return between, and if they bring none into a text that has none. -/
theorem lineEndOf_joinLines {s : Text} {lines : List Text}
    (htwo : '\r' ∈ s → 2 ≤ lines.length)
    (hlines : '\r' ∉ s → ∀ line ∈ lines, '\r' ∉ line) :
    lineEndOf (joinLines (lineEndOf s) lines) = lineEndOf s := by
  by_cases hcr : '\r' ∈ s
  · obtain ⟨first, second, rest, rfl⟩ : ∃ first second rest, lines = first :: second :: rest := by
      match lines, htwo hcr with
      | first :: second :: rest, _ => exact ⟨first, second, rest, rfl⟩
    rw [lineEndOf_of_mem hcr, lineEndOf_of_mem]
    simp [joinLines_cons]
  · rw [lineEndOf_of_not_mem hcr, lineEndOf_of_not_mem]
    intro hmem
    rcases mem_or_mem_of_mem_joinLines hmem with hmem | ⟨line, hline, hmem⟩
    · exact absurd hmem (by decide)
    · exact hlines hcr line hline hmem

/-- A line without line feed can be joined with the line end of a text, unless it ends
with a carriage return and the text has none. -/
theorem standsBefore_lineEndOf {s line : Text} (hlf : '\n' ∉ line)
    (hcr : line.getLast? = some '\r' → '\r' ∈ s) : StandsBefore (lineEndOf s) line := by
  refine ⟨hlf, ?_⟩
  by_cases hmem : '\r' ∈ s
  · exact Or.inl (lineEndOf_of_mem hmem)
  · exact Or.inr ⟨lineEndOf_of_not_mem hmem, fun hlast => hmem (hcr hlast)⟩

/-- The lines of a text can be joined with the line end of the text. -/
theorem standsBefore_of_mem_splitLines {s line : Text} (hline : line ∈ splitLines s) :
    StandsBefore (lineEndOf s) line :=
  standsBefore_lineEndOf (not_mem_of_mem_splitLines hline) fun hlast =>
    (mem_of_mem_splitLines hline (List.mem_of_getLast? hlast)).1

/-- What a line begins with does not matter: only its last piece can end with a carriage
return. -/
theorem standsBefore_append_cons {s front line : Text} {c : Char} (hfront : '\n' ∉ front)
    (hc : c ≠ '\n' ∧ c ≠ '\r') (hlf : '\n' ∉ line)
    (hcr : line.getLast? = some '\r' → '\r' ∈ s) :
    StandsBefore (lineEndOf s) (front ++ c :: line) := by
  refine standsBefore_lineEndOf ?_ ?_
  · rw [List.mem_append, List.mem_cons, not_or, not_or]
    exact ⟨hfront, Ne.symm hc.1, hlf⟩
  · intro hlast
    rw [List.getLast?_append, List.getLast?_cons] at hlast
    cases hline : line.getLast? with
    | none =>
        rw [hline] at hlast
        exact absurd (Option.some.inj hlast) hc.2
    | some d =>
        rw [hline] at hlast
        exact hcr (hline.trans hlast)

/-! ## Replacing lines -/

/-- **Lines of a text with some of them replaced come apart again**, if the new lines can be
joined with the line end of the text. -/
theorem splitLines_joinLines_replace {s : Text} {block : List Text} (i j : Nat)
    (hne : block ≠ []) (hblock : ∀ line ∈ block, StandsBefore (lineEndOf s) line) :
    splitLines (joinLines (lineEndOf s) ((splitLines s).take i ++ block ++ (splitLines s).drop j)) =
      (splitLines s).take i ++ block ++ (splitLines s).drop j := by
  refine splitLines_joinLines (by simp [hne]) fun line hline => ?_
  rcases List.mem_append.mp hline with hline | hline
  · rcases List.mem_append.mp hline with hline | hline
    · exact standsBefore_of_mem_splitLines (List.mem_of_mem_take hline)
    · exact hblock line hline
  · exact standsBefore_of_mem_splitLines (List.mem_of_mem_drop hline)

theorem set_eq_replace {lines : List Text} {i : Nat} (hi : i < lines.length) (new : Text) :
    lines.set i new = lines.take i ++ [new] ++ lines.drop (i + 1) := by
  rw [List.set_eq_take_append_cons_drop, if_pos hi, List.append_assoc, List.singleton_append]

theorem splitLines_joinLines_set {s new : Text} {i : Nat} (hi : i < (splitLines s).length)
    (hnew : StandsBefore (lineEndOf s) new) :
    splitLines (joinLines (lineEndOf s) ((splitLines s).set i new)) = (splitLines s).set i new := by
  rw [set_eq_replace hi]
  refine splitLines_joinLines_replace i (i + 1) (List.cons_ne_nil _ _) fun line hline => ?_
  rw [List.mem_singleton.mp hline]
  exact hnew

/-! ## Texts with line ends of one kind -/

/-- Whether carriage returns and line feeds occur in pairs only. -/
structure PairedEnds (s : Text) : Prop where
  /-- Behind a carriage return comes a line feed. -/
  behind : ∀ i, s[i]? = some '\r' → s[i + 1]? = some '\n'
  /-- Before a line feed comes a carriage return. -/
  before : ∀ i, s[i]? = some '\n' → ∃ j, i = j + 1 ∧ s[j]? = some '\r'

/-- A text all of whose line ends are its line end: it has no carriage return, or none
but before a line feed and no line feed but behind a carriage return. -/
def UniformEnds (s : Text) : Prop := '\r' ∉ s ∨ PairedEnds s

theorem not_pairedEnds_lf (rest : Text) : ¬ PairedEnds ('\n' :: rest) := by
  intro h
  obtain ⟨j, hj, _⟩ := h.before 0 rfl
  omega

theorem PairedEnds.of_crlf {rest : Text} (h : PairedEnds ('\r' :: '\n' :: rest)) :
    PairedEnds rest where
  behind i hi := h.behind (i + 2) hi
  before i hi := by
    obtain ⟨j, hj, hcr⟩ := h.before (i + 2) hi
    -- the character at 1 is a line feed, so the carriage return stands behind it
    match j, hj with
    | 1, _ => cases hcr
    | j + 2, hj => exact ⟨j, by omega, hcr⟩

theorem PairedEnds.of_cons {c : Char} {rest : Text} (hc : c ≠ '\r')
    (h : PairedEnds (c :: rest)) : PairedEnds rest where
  behind i hi := h.behind (i + 1) hi
  before i hi := by
    obtain ⟨j, hj, hcr⟩ := h.before (i + 1) hi
    match j, hj with
    | 0, _ => exact absurd (Option.some.inj hcr) hc
    | j + 1, hj => exact ⟨j, by omega, hcr⟩

/-- A line end at the beginning of a text is the end of an empty line. -/
theorem joinLines_nil_cons {lineEnd : Text} {lines : List Text} (h : lines ≠ []) :
    joinLines lineEnd ([] :: lines) = lineEnd ++ joinLines lineEnd lines := by
  rw [← List.singleton_append, joinLines_append_right h]
  simp

theorem joinLines_splitLines_of_not_mem {s : Text} (h : '\r' ∉ s) :
    joinLines ['\n'] (splitLines s) = s := by
  fun_induction splitLines s with
  | case1 => rfl
  | case2 rest ih =>
      rw [joinLines_nil_cons (splitLines_ne_nil rest), ih (List.not_mem_of_not_mem_cons h)]
      rfl
  | case3 rest ih => exact absurd List.mem_cons_self h
  | case4 d rest hnil => exact absurd ‹_› (splitLines_ne_nil rest)
  | case5 c rest hlf hcrlf line lines hrest ih =>
      rw [joinLines_cons, List.cons_append, ← joinLines_cons, ← hrest,
        ih (List.not_mem_of_not_mem_cons h)]

theorem joinLines_splitLines_of_paired {s : Text} (h : PairedEnds s) :
    joinLines ['\r', '\n'] (splitLines s) = s := by
  fun_induction splitLines s with
  | case1 => rfl
  | case2 rest ih => exact absurd h (not_pairedEnds_lf rest)
  | case3 rest ih =>
      rw [joinLines_nil_cons (splitLines_ne_nil rest), ih h.of_crlf]
      rfl
  | case4 d rest hnil => exact absurd ‹_› (splitLines_ne_nil rest)
  | case5 c rest hlf hcrlf line lines hrest ih =>
      have hc : c ≠ '\r' := by
        rintro rfl
        obtain ⟨d, rest', hd⟩ : ∃ d rest', rest = d :: rest' := by
          cases rest with
          | nil => cases h.behind 0 rfl
          | cons d rest' => exact ⟨d, rest', rfl⟩
        subst hd
        cases h.behind 0 rfl
        exact hcrlf rest' rfl rfl
      rw [joinLines_cons, List.cons_append, ← joinLines_cons, ← hrest, ih (h.of_cons hc)]

/-- **A text with line ends of one kind is its lines joined.** -/
theorem joinLines_splitLines {s : Text} (h : UniformEnds s) :
    joinLines (lineEndOf s) (splitLines s) = s := by
  by_cases hcr : '\r' ∈ s
  · rw [lineEndOf_of_mem hcr]
    exact joinLines_splitLines_of_paired (h.resolve_left fun hnot => hnot hcr)
  · rw [lineEndOf_of_not_mem hcr]
    exact joinLines_splitLines_of_not_mem hcr

/-! ## Pieces -/

theorem splitWhere_ne_nil (p : Char → Bool) (s : Text) : splitWhere p s ≠ [] := by
  fun_cases splitWhere p s <;> simp_all

theorem splitWhere_of_forall {p : Char → Bool} {s : Text} (h : ∀ c ∈ s, p c = false) :
    splitWhere p s = [s] := by
  induction s with
  | nil => rfl
  | cons c s ih =>
      obtain ⟨hc, hs⟩ := List.forall_mem_cons.mp h
      rw [splitWhere, hc, ih hs]
      rfl

theorem splitOn_of_not_mem {sep : Char} {s : Text} (h : sep ∉ s) : splitOn sep s = [s] :=
  splitWhere_of_forall fun _ hc => decide_eq_false fun heq => h (heq ▸ hc)

/-- A piece ends at the first character that is to be cut at. -/
theorem splitWhere_append_cons {p : Char → Bool} {piece : Text} {c : Char}
    (hpiece : ∀ d ∈ piece, p d = false) (hc : p c = true) (rest : Text) :
    splitWhere p (piece ++ c :: rest) = piece :: splitWhere p rest := by
  induction piece with
  | nil => rw [List.nil_append, splitWhere, if_pos hc]
  | cons d piece ih =>
      obtain ⟨hd, hpiece⟩ := List.forall_mem_cons.mp hpiece
      rw [List.cons_append, splitWhere, hd, ih hpiece]
      rfl

/-- Pieces that are joined by a character to be cut at are cut apart again. -/
theorem splitWhere_joinWith {p : Char → Bool} {sep : Char} {pieces : List Text}
    (hsep : p sep = true) (hne : pieces ≠ []) (h : ∀ piece ∈ pieces, ∀ c ∈ piece, p c = false) :
    splitWhere p (joinWith [sep] pieces) = pieces := by
  induction pieces with
  | nil => exact absurd rfl hne
  | cons piece rest ih =>
      obtain ⟨hpiece, hrest⟩ := List.forall_mem_cons.mp h
      cases rest with
      | nil => exact splitWhere_of_forall hpiece
      | cons next rest =>
          rw [joinWith, List.append_assoc, List.singleton_append,
            splitWhere_append_cons hpiece hsep, ih (List.cons_ne_nil _ _) hrest]

/-- The pieces of a text between the occurrences of a character, together with that character
between neighbours, are the text. -/
theorem joinWith_splitOn (sep : Char) (s : Text) : joinWith [sep] (splitOn sep s) = s := by
  show joinLines [sep] (splitOn sep s) = s
  unfold splitOn
  fun_induction splitWhere (· = sep) s with
  | case1 => rfl
  | case2 c rest hc ih =>
      rw [joinLines_nil_cons (splitWhere_ne_nil _ rest), ih, of_decide_eq_true hc]
      rfl
  | case3 c rest hc hnil => exact absurd ‹_› (splitWhere_ne_nil _ rest)
  | case4 c rest hc piece pieces hrest ih =>
      rw [joinLines_cons, List.cons_append, ← joinLines_cons, ← hrest, ih]

theorem joinLines_splitOn (s : Text) : joinLines ['\n'] (splitOn '\n' s) = s :=
  joinWith_splitOn '\n' s

theorem mem_of_mem_splitWhere {p : Char → Bool} {s piece : Text} (hpiece : piece ∈ splitWhere p s)
    {c : Char} (hc : c ∈ piece) : c ∈ s ∧ p c = false := by
  fun_induction splitWhere p s generalizing piece with
  | case1 =>
      rw [List.mem_singleton.mp hpiece] at hc
      cases hc
  | case2 d rest hd ih =>
      rcases List.mem_cons.mp hpiece with rfl | hpiece
      · cases hc
      · exact (ih hpiece hc).imp_left (List.mem_cons_of_mem _)
  | case3 d rest hd hnil => exact absurd ‹_› (splitWhere_ne_nil _ rest)
  | case4 d rest hd first pieces hrest ih =>
      rw [hrest] at ih
      rcases List.mem_cons.mp hpiece with rfl | hpiece
      · rcases List.mem_cons.mp hc with rfl | hc
        · exact ⟨List.mem_cons_self, eq_false_of_ne_true hd⟩
        · exact (ih List.mem_cons_self hc).imp_left (List.mem_cons_of_mem _)
      · exact (ih (List.mem_cons_of_mem _ hpiece) hc).imp_left (List.mem_cons_of_mem _)

theorem mem_of_mem_splitOn {s piece : Text} (hpiece : piece ∈ splitOn '\n' s) {c : Char}
    (hc : c ∈ piece) : c ∈ s ∧ c ≠ '\n' :=
  (mem_of_mem_splitWhere hpiece hc).imp_right of_decide_eq_false

/-- The first piece of a text is what stands before its first line feed. -/
theorem takeWhile_eq_of_splitOn {s first : Text} {rest : List Text}
    (h : splitOn '\n' s = first :: rest) : s.takeWhile (· != '\n') = first := by
  have hlf : '\n' ∉ first := fun hmem => (mem_of_mem_splitOn (h ▸ List.mem_cons_self) hmem).2 rfl
  have hall : ∀ c ∈ first, (c != '\n') = true := fun c hc =>
    bne_iff_ne.mpr fun heq => hlf (heq ▸ hc)
  rw [← joinLines_splitOn s, h, joinLines_cons, List.takeWhile_append_of_pos hall]
  cases rest with
  | nil => simp
  | cons next rest => simp

end NoteVault.Text
