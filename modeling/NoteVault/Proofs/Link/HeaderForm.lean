import Mathlib.Data.List.Infix
import NoteVault.Proofs.Link.Derivation
import NoteVault.Proofs.Link.Header

/-!
# The form in which a link has a header

The words of a header with blanks between them are a text of a certain form: it has only characters
of words and plain blanks, of which no two stand side by side and none stands at an end. That is to
say that none of its pieces between blanks is empty. So the pieces are all words, a text of the form
is the words it has with blanks between them, and making it once more leaves it as it is.

Two headers are therefore the same for a link exactly if they have the same words.

## Main definitions

* `IsHeaderForm` — the form in which a link has a header.
* `HeaderLaws` — what holds of a header and of the links to it.

## Main results

* `nil_mem_splitOn_iff` — which texts have an empty piece.
* `normalizeHeader_eq_self_iff` — exactly the texts of the form stay as they are.
* `normalizeHeader_eq_iff` — two headers have the same form exactly if they have the same words.
* `normalizeHeader_laws` — what holds of all headers.
-/

namespace NoteVault

open Text

/-! ## Empty pieces -/

namespace Text

/-- **Which texts have an empty piece**: the empty text, and those with a separator at an end or
beside another one. -/
theorem nil_mem_splitOn_iff {sep : Char} {s : Text} : [] ∈ splitOn sep s ↔
    s = [] ∨ s.head? = some sep ∨ s.getLast? = some sep ∨ [sep, sep] <:+: s := by
  have hsep : decide (sep = sep) = true := decide_eq_true rfl
  constructor
  · intro h
    obtain ⟨front, back, hpieces⟩ := List.append_of_mem h
    have hs : s = front.flatMap (· ++ [sep]) ++ back.flatMap ([sep] ++ ·) := by
      calc s = joinWith [sep] (splitOn sep s) := (joinWith_splitOn sep s).symm
        _ = joinLines [sep] (front ++ [[]] ++ back) := by
            rw [hpieces, List.append_cons]
            rfl
        _ = front.flatMap (· ++ [sep]) ++ joinLines [sep] [[]] ++ back.flatMap ([sep] ++ ·) :=
            joinLines_splice (List.cons_ne_nil _ _)
        _ = front.flatMap (· ++ [sep]) ++ back.flatMap ([sep] ++ ·) := by
            rw [joinLines, joinWith, List.append_nil]
    -- a piece in front of the empty one ends with a separator, and one behind begins with one
    rcases List.eq_nil_or_concat front with rfl | ⟨front, piece, rfl⟩
    · cases back with
      | nil => exact Or.inl hs
      | cons next back => exact Or.inr (Or.inl (by rw [hs]; rfl))
    · cases back with
      | nil => exact Or.inr (Or.inr (Or.inl (by rw [hs]; simp)))
      | cons next back =>
          refine Or.inr (Or.inr (Or.inr ⟨front.flatMap (· ++ [sep]) ++ piece,
            next ++ back.flatMap ([sep] ++ ·), ?_⟩))
          rw [hs]
          simp
  · rintro (rfl | hhead | hlast | ⟨front, back, rfl⟩)
    · exact List.mem_singleton_self _
    · obtain ⟨rest, rfl⟩ := List.head?_eq_some_iff.mp hhead
      rw [splitOn, splitWhere, if_pos hsep]
      exact List.mem_cons_self
    · obtain ⟨front, rfl⟩ := List.getLast?_eq_some_iff.mp hlast
      rw [splitOn, splitWhere_append_sep hsep]
      exact List.mem_append_right _ (List.mem_singleton_self _)
    · rw [splitOn, List.append_assoc]
      show _ ∈ splitWhere _ (front ++ sep :: (sep :: back))
      rw [splitWhere_append_sep hsep, splitWhere, if_pos hsep]
      exact List.mem_append_right _ List.mem_cons_self

theorem splitWhere_congr {p q : Char → Bool} {s : Text} (h : ∀ c ∈ s, p c = q c) :
    splitWhere p s = splitWhere q s := by
  induction s with
  | nil => rfl
  | cons c rest ih =>
      obtain ⟨hc, hrest⟩ := List.forall_mem_cons.mp h
      rw [splitWhere, splitWhere, hc, ih hrest]

end Text

/-! ## The form -/

/-- The form in which a link has a header. -/
structure IsHeaderForm (s : Text) : Prop where
  /-- It has only characters of words and plain blanks. -/
  chars : ∀ c ∈ s, isWord c = true ∨ c = ' '
  /-- No two blanks stand side by side. -/
  single : ¬ [' ', ' '] <:+: s
  /-- None stands at the beginning. -/
  head : s.head? ≠ some ' '
  /-- None stands at the end. -/
  last : s.getLast? ≠ some ' '

theorem isWord_space : isWord ' ' = false := by decide

/-- In a text of words and plain blanks, the words are the pieces between blanks. -/
theorem wordRuns_eq_filter {s : Text} (h : ∀ c ∈ s, isWord c = true ∨ c = ' ') :
    wordRuns s = (splitOn ' ' s).filter fun run => !run.isEmpty := by
  have hcut : ∀ c ∈ s, (!isWord c) = decide (c = ' ') := by
    intro c hc
    rcases h c hc with hword | rfl
    · have hne : c ≠ ' ' := by
        rintro rfl
        exact Bool.false_ne_true (isWord_space.symm.trans hword)
      rw [hword, decide_eq_false hne]
      rfl
    · rfl
  rw [wordRuns, splitOn, splitWhere_congr hcut]

theorem isHeaderForm_nil : IsHeaderForm [] := ⟨nofun, by decide, nofun, nofun⟩

/-- **A text of words and plain blanks** has the form if none of its pieces is empty. -/
theorem isHeaderForm_iff {s : Text} (hne : s ≠ []) (h : ∀ c ∈ s, isWord c = true ∨ c = ' ') :
    IsHeaderForm s ↔ [] ∉ splitOn ' ' s := by
  rw [nil_mem_splitOn_iff]
  constructor
  · rintro hform (hnil | hhead | hlast | hdouble)
    · exact hne hnil
    · exact hform.head hhead
    · exact hform.last hlast
    · exact hform.single hdouble
  · intro hnot
    exact
      { chars := h
        single := fun hdouble => hnot (Or.inr (Or.inr (Or.inr hdouble)))
        head := fun hhead => hnot (Or.inr (Or.inl hhead))
        last := fun hlast => hnot (Or.inr (Or.inr (Or.inl hlast))) }

/-- **The words of a header with blanks between them** have the form. -/
theorem isHeaderForm_normalizeHeader (header : Text) : IsHeaderForm (normalizeHeader header) := by
  by_cases hnil : normalizeHeader header = []
  · rw [hnil]
    exact isHeaderForm_nil
  · rw [isHeaderForm_iff hnil fun c => isWord_or_of_mem_normalizeHeader]
    have hruns : wordRuns header ≠ [] := by
      intro hruns
      rw [normalizeHeader_eq, hruns] at hnil
      exact hnil rfl
    have hpieces : splitOn ' ' (normalizeHeader header) = wordRuns header := by
      rw [normalizeHeader_eq]
      refine splitWhere_joinWith (decide_eq_true rfl) hruns fun run hrun c hc => ?_
      refine decide_eq_false ?_
      rintro rfl
      exact Bool.false_ne_true (isWord_space.symm.trans ((mem_wordRuns hrun).2 ' ' hc))
    rw [hpieces]
    exact fun hmem => (mem_wordRuns hmem).1 rfl

/-- **Exactly the texts of the form stay as they are.** -/
theorem normalizeHeader_eq_self_iff {s : Text} : normalizeHeader s = s ↔ IsHeaderForm s := by
  constructor
  · intro h
    rw [← h]
    exact isHeaderForm_normalizeHeader s
  · intro h
    by_cases hnil : s = []
    · rw [hnil]
      rfl
    · have hfilled : ∀ run ∈ splitOn ' ' s, (!run.isEmpty) = true := by
        intro run hrun
        have hne : run ≠ [] := by
          rintro rfl
          exact (isHeaderForm_iff hnil h.chars).mp h hrun
        simpa using hne
      rw [normalizeHeader_eq, wordRuns_eq_filter h.chars, List.filter_eq_self.mpr hfilled,
        joinWith_splitOn]

/-- **Two headers have the same form** exactly if they have the same words. -/
theorem normalizeHeader_eq_iff {header other : Text} :
    normalizeHeader header = normalizeHeader other ↔ wordRuns header = wordRuns other := by
  constructor
  · intro h
    rw [← wordRuns_normalizeHeader header, h, wordRuns_normalizeHeader]
  · intro h
    rw [normalizeHeader_eq, h, normalizeHeader_eq]

/-! ## Links to headers -/

namespace Link

/-- **Two links to headers of a file point at the same place** exactly if the headers have the same
words. -/
theorem pointsLike_toHeaderAt (path : Text) (embed embed' : Bool) (display display' : Option Text)
    {header other : Text} :
    (toHeaderAt path header embed display).pointsLike (toHeaderAt path other embed' display') ↔
      wordRuns header = wordRuns other := by
  simp [pointsLike, toHeaderAt, normalizeHeader_eq_iff]

theorem isComparable_toHeaderAt {path : Text} (hpath : '\x00' ∉ path) (header : Text)
    (embed : Bool) (display : Option Text) :
    (Value.link (toHeaderAt path header embed display)).isComparable fun path => path := by
  have hwords : '\x00' ∉ normalizeHeader header := by
    intro hmem
    rcases isWord_or_of_mem_normalizeHeader hmem with hword | hblank
    · exact absurd hword (by decide)
    · exact absurd hblank (by decide)
  simp [Value.isComparable, Text.isComparable, toHeaderAt, subpath?, LinkTarget.subpath?, hpath,
    hwords]

/-- A link to the header that a link already names points at the same place exactly if the name has
the form. -/
theorem pointsLike_withHeader_iff {l : Link} {words : Text} (h : l.target = .header words) :
    (l.withHeader words).pointsLike l ↔ IsHeaderForm words := by
  have hsame : (l.withHeader words).pointsLike l ↔ normalizeHeader words = words := by
    unfold pointsLike
    rw [Bool.and_eq_true, decide_eq_true_eq, decide_eq_true_eq, h]
    exact ⟨fun hlike => LinkTarget.header.inj hlike.2, fun heq => ⟨rfl, congrArg _ heq⟩⟩
  rw [hsame, normalizeHeader_eq_self_iff]

/-- A link to a header is made once more by its own subpath. -/
theorem withHeader_toHeaderAt (path header : Text) (embed : Bool) (display : Option Text) :
    ∃ words, (toHeaderAt path header embed display).subpath? = some words ∧
      (toHeaderAt path header embed display).withHeader words =
        toHeaderAt path header embed display := by
  refine ⟨normalizeHeader header, rfl, ?_⟩
  unfold withHeader toHeaderAt
  rw [normalizeHeader_normalizeHeader]

end Link

/-! ## All headers -/

/-- What holds of a header and of the links to it. -/
structure HeaderLaws (header : Text) : Prop where
  /-- A link has it in the form that has only words and single blanks between them. -/
  form : IsHeaderForm (normalizeHeader header)
  /-- The words are those of the header. -/
  words : wordRuns (normalizeHeader header) = wordRuns header
  /-- Once is enough. -/
  again : normalizeHeader (normalizeHeader header) = normalizeHeader header
  /-- It stays as it is exactly if it has the form. -/
  kept_iff : normalizeHeader header = header ↔ IsHeaderForm header
  /-- A link to it and one to another header of the file point at the same place exactly if both
  have the same words, whatever else the links say. -/
  same : ∀ (path other : Text) (embed embed' : Bool) (display display' : Option Text),
    (Link.toHeaderAt path header embed display).pointsLike
        (Link.toHeaderAt path other embed' display') ↔
      wordRuns header = wordRuns other
  /-- Without U+0000 in the path they can be compared, and no difference is found in the same
  case. -/
  compare : ∀ (path other : Text) (embed embed' : Bool) (display display' : Option Text),
    '\x00' ∉ path →
    ∃ o, (Value.link (Link.toHeaderAt path header embed display)).compare
        (.link (Link.toHeaderAt path other embed' display')) = .ok o ∧
      (o = .eq ↔ wordRuns header = wordRuns other)
  /-- A link to it has a subpath, and is made once more by it. -/
  own : ∀ (path : Text) (embed : Bool) (display : Option Text),
    ∃ words, (Link.toHeaderAt path header embed display).subpath? = some words ∧
      (Link.toHeaderAt path header embed display).withHeader words =
        Link.toHeaderAt path header embed display
  /-- A link that names it as it stands is made once more exactly if it has the form. -/
  own_iff : ∀ l : Link, l.target = .header header →
    ((l.withHeader header).pointsLike l ↔ IsHeaderForm header)

/-- **What holds of all headers.** -/
theorem normalizeHeader_laws (header : Text) : HeaderLaws header where
  form := isHeaderForm_normalizeHeader header
  words := wordRuns_normalizeHeader header
  again := normalizeHeader_normalizeHeader header
  kept_iff := normalizeHeader_eq_self_iff
  same path _ embed embed' display display' :=
    Link.pointsLike_toHeaderAt path embed embed' display display'
  compare path other embed embed' display display' hpath := by
    obtain ⟨o, hcompare, ho⟩ :=
      Link.compare_eq_ok (Link.isComparable_toHeaderAt hpath header embed display)
        (Link.isComparable_toHeaderAt hpath other embed' display')
    exact ⟨o, hcompare, ho.trans (Link.pointsLike_toHeaderAt path embed embed' display display')⟩
  own path := Link.withHeader_toHeaderAt path header
  own_iff _ := Link.pointsLike_withHeader_iff

example : normalizeHeader "  Tasks:  for   today? " = "Tasks for today" := by decide +kernel

end NoteVault
