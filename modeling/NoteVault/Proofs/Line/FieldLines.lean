import NoteVault.Proofs.Line.FieldsUnder
import NoteVault.Proofs.Text.BareEnds

/-!
# Fields and lines

A field may go over several lines. Its key and its value then hold line ends, but bare ends
instead of others make no difference to where fields begin and end, and a key on one line stays
what it is.

A line read on its own can hold a field that is part of another one in the whole text. A text
is free of a key if it has no field under it from whatever line on it is read. This is what
remains true when the text is put together of parts or loses blanks at its end.

## Main results

* `recognise_bareEnds` — a field of a text with bare line ends.
* `fieldsUnder_bareEnds_eq_nil` — a key that no field has is the key of none with bare ends.
* `KeyFree.append` — texts free of a key one after the other.
* `KeyFree.bareEnds` — a text free of a key with bare ends.
-/

namespace NoteVault

open Text InlineField

/-! ## Blanks and bare ends -/

namespace Text

theorem dropWhile_bareEnds (s : Text) :
    (bareEnds s).dropWhile isBlank = bareEnds (s.dropWhile isBlank) := by
  fun_induction bareEnds s with
  | case1 => rfl
  | case2 rest ih =>
      rw [List.dropWhile_cons_of_pos (by decide), List.dropWhile_cons_of_pos (by decide),
        List.dropWhile_cons_of_pos (by decide), ih]
  | case3 c rest hcrlf ih =>
      by_cases hc : isBlank c = true
      · rw [List.dropWhile_cons_of_pos hc, List.dropWhile_cons_of_pos hc, ih]
      · rw [List.dropWhile_cons_of_neg hc, List.dropWhile_cons_of_neg hc, bareEnds_cons]
        rintro rfl
        exact absurd (by decide) hc

theorem stripEnd_bareEnds (s : Text) : stripEnd (bareEnds s) = bareEnds (stripEnd s) := by
  obtain ⟨cut, hs, hcut⟩ := exists_dropEndWhile_append isBlank s
  have hlast : ∀ c, (stripEnd s).getLast? = some c → isBlank c = false :=
    dropEndWhile_eq_self_iff.mp (dropEndWhile_dropEndWhile isBlank s)
  have hsplit : bareEnds s = bareEnds (stripEnd s) ++ bareEnds cut := by
    rw [← bareEnds_append]
    · exact congrArg bareEnds hs
    · exact fun hcr => absurd (hlast '\r' hcr) (by decide)
  have hself : stripEnd (bareEnds (stripEnd s)) = bareEnds (stripEnd s) := by
    refine dropEndWhile_eq_self_iff.mpr fun c hc => hlast c ?_
    rwa [getLast?_bareEnds] at hc
  calc stripEnd (bareEnds s)
      = stripEnd (bareEnds (stripEnd s) ++ bareEnds cut) := by rw [hsplit]
    _ = stripEnd (bareEnds (stripEnd s)) :=
        dropEndWhile_append _ fun c hc => hcut c (mem_of_mem_bareEnds hc)
    _ = bareEnds (stripEnd s) := hself

/-- Stripping and bare ends, in either order. -/
theorem strip_bareEnds (s : Text) : strip (bareEnds s) = bareEnds (strip s) := by
  unfold strip stripStart
  rw [dropWhile_bareEnds, stripEnd_bareEnds]

end Text

/-! ## Fields with bare ends -/

namespace InlineField

/-- A field with bare line ends in its key and its value. -/
def bareEnds (f : InlineField) : InlineField :=
  { f with key := Text.bareEnds f.key, value := Text.bareEnds f.value }

theorem Opening.bareEnds {s key rest : Text} (h : Opening s key rest) :
    Opening (Text.bareEnds s) (Text.bareEnds key) (Text.bareEnds rest) := by
  obtain ⟨rfl, hne, hkey⟩ := h
  refine ⟨?_, ?_, fun c hc => hkey c (mem_of_mem_bareEnds hc)⟩
  · rw [bareEnds_append fun _ => by simp, bareEnds_cons_of_ne (by decide),
      bareEnds_cons_of_ne (by decide)]
  · exact fun hnil => hne (bareEnds_eq_nil_iff.mp hnil)

theorem inKey_of_bareEnds {s : Text} (h : ∀ c ∈ Text.bareEnds s, inKey c = true) {c : Char}
    (hc : c ∈ s) : inKey c = true := by
  by_cases hcr : c = '\r'
  · rw [hcr]
    rfl
  · exact h c (mem_bareEnds hcr hc)

/-- A text that opens a field with bare ends opens one with its own. -/
theorem Opens.of_bareEnds_append {s back : Text} (h : Opens (Text.bareEnds s ++ back)) :
    Opens (s ++ back) := by
  obtain ⟨key, rest, heq, hne, hkey⟩ := h
  rcases List.append_eq_append_iff.mp heq with ⟨more, rfl, rfl⟩ | ⟨mid, hmid, hrest⟩
  · -- the key ends behind the first text
    refine ⟨s ++ more, rest, by simp, fun hnil => hne ?_, fun c hc => ?_⟩
    · obtain ⟨rfl, rfl⟩ := List.append_eq_nil_iff.mp hnil
      rfl
    · rcases List.mem_append.mp hc with hc | hc
      · exact inKey_of_bareEnds (fun d hd => hkey d (List.mem_append_left _ hd)) hc
      · exact hkey c (List.mem_append_right _ hc)
  · cases mid with
    | nil =>
        rw [List.append_nil] at hmid
        rw [List.nil_append] at hrest
        rw [← hmid] at hne hkey
        refine ⟨s, rest, by rw [hrest], ?_, fun c => inKey_of_bareEnds hkey⟩
        exact fun hnil => hne (bareEnds_eq_nil_iff.mpr hnil)
    | cons c mid =>
        obtain ⟨rfl, hcolon⟩ := List.cons.inj hrest
        obtain ⟨front, tail, rfl, rfl, rfl⟩ :=
          exists_of_bareEnds_eq_append_cons (by decide) hmid
        have hhead : (tail ++ back).head? = some ':' :=
          head?_of_bareEnds_append (by decide) (congrArg List.head? hcolon).symm
        obtain ⟨rest', hrest'⟩ := List.head?_eq_some_iff.mp hhead
        refine ⟨front, rest', by simp [hrest'], ?_, fun c => inKey_of_bareEnds hkey⟩
        exact fun hnil => hne (bareEnds_eq_nil_iff.mpr hnil)

variable {wrapping closing : Char}

theorem inside?_bareEnds (hlf : closing ≠ '\n') (hcr : closing ≠ '\r') (s : Text) :
    inside? wrapping closing (Text.bareEnds s) =
      (inside? wrapping closing s).map fun found => (found.1.bareEnds, Text.bareEnds found.2) := by
  by_cases hopens : Opens s
  · obtain ⟨key, rest, hopening⟩ := hopens
    by_cases hmem : closing ∈ rest
    · obtain ⟨value, after, rfl, hvalue⟩ := List.eq_append_cons_of_mem hmem
      have hsplit : Text.bareEnds (value ++ closing :: after) =
          Text.bareEnds value ++ closing :: Text.bareEnds after := by
        rw [bareEnds_append fun _ => by simpa using hlf, bareEnds_cons_of_ne hcr]
      have hbare := hopening.bareEnds
      rw [hsplit] at hbare
      rw [inside?_of_mem hopening hvalue,
        inside?_of_mem hbare fun h => hvalue (mem_of_mem_bareEnds h), strip_bareEnds,
        strip_bareEnds]
      rfl
    · rw [inside?_of_not_mem hopening hmem,
        inside?_of_not_mem hopening.bareEnds fun h => hmem (mem_of_mem_bareEnds h),
        Option.map_none]
  · have hbare : ¬ Opens (Text.bareEnds s) := by
      intro h
      rw [← List.append_nil (Text.bareEnds s)] at h
      rw [← List.append_nil s] at hopens
      exact hopens h.of_bareEnds_append
    rw [inside?_of_not_opens hopens, inside?_of_not_opens hbare, Option.map_none]

/-- **A field of a text with bare line ends.** -/
theorem recognise_bareEnds (s : Text) :
    recognise (Text.bareEnds s) =
      (recognise s).map fun found => (found.1.bareEnds, Text.bareEnds found.2) := by
  by_cases hsquare : s.head? = some '['
  · obtain ⟨rest, rfl⟩ := List.head?_eq_some_iff.mp hsquare
    rw [bareEnds_cons_of_ne (by decide)]
    exact inside?_bareEnds (by decide) (by decide) rest
  · by_cases hround : s.head? = some '('
    · obtain ⟨rest, rfl⟩ := List.head?_eq_some_iff.mp hround
      rw [bareEnds_cons_of_ne (by decide)]
      exact inside?_bareEnds (by decide) (by decide) rest
    · have hhead : ∀ c, c ≠ '\n' → (Text.bareEnds s).head? = some c → s.head? = some c := by
        intro c hc hbare
        rw [← List.append_nil (Text.bareEnds s)] at hbare
        rw [← List.append_nil s]
        exact head?_of_bareEnds_append hc hbare
      rw [recognise_eq_none hsquare hround, recognise_eq_none, Option.map_none]
      · exact mt (hhead '[' (by decide)) hsquare
      · exact mt (hhead '(' (by decide)) hround

end InlineField

/-- A text with bare line ends has the fields of the text with bare ends. -/
theorem inlineFields_bareEnds (s : Text) :
    (inlineFields (Text.bareEnds s)).map (·.value) =
      (inlineFields s).map (·.value.bareEnds) := by
  induction s using scan_induction recognise_consumes with
  | nil => rfl
  | cons c rest hnone ih =>
      have hvalues : (inlineFields (c :: rest)).map (·.value.bareEnds) =
          (inlineFields rest).map (·.value.bareEnds) := by
        unfold inlineFields
        rw [scan_cons_of_eq_none hnone, List.map_map]
        rfl
      rw [hvalues, ← ih]
      by_cases hcrlf : c = '\r' ∧ rest.head? = some '\n'
      · obtain ⟨rfl, hhead⟩ := hcrlf
        obtain ⟨tail, rfl⟩ := List.head?_eq_some_iff.mp hhead
        rw [Text.bareEnds, bareEnds_cons_of_ne (by decide)]
      · have hbare := recognise_bareEnds (c :: rest)
        rw [hnone, bareEnds_cons fun hc hhead => hcrlf ⟨hc, hhead⟩] at hbare
        rw [bareEnds_cons fun hc hhead => hcrlf ⟨hc, hhead⟩]
        unfold inlineFields
        rw [scan_cons_of_eq_none hbare, List.map_map]
        rfl
  | mark mark back f hne hmark ih =>
      have hbare := recognise_bareEnds (mark ++ back)
      rw [hmark] at hbare
      obtain ⟨mark', hne', hmark'⟩ := recognise_consumes _ _ _ hbare
      rw [hmark'] at hbare ⊢
      unfold inlineFields at ih ⊢
      rw [scan_of_recognise hne' hbare, scan_of_recognise hne hmark, List.map_cons, List.map_cons,
        List.map_map, List.map_map]
      exact congrArg (f.bareEnds :: ·) ih

theorem fieldsUnder_eq_nil_iff {s key : Text} :
    fieldsUnder s key = [] ↔ ∀ f ∈ (inlineFields s).map (·.value), f.key ≠ key := by
  simp [fieldsUnder]

/-- A key that no field has is the key of none with bare line ends. -/
theorem fieldsUnder_bareEnds_eq_nil {s key : Text} (hkey : '\n' ∉ key)
    (h : fieldsUnder s key = []) : fieldsUnder (Text.bareEnds s) key = [] := by
  rw [fieldsUnder_eq_nil_iff] at h ⊢
  rw [inlineFields_bareEnds]
  intro f hf heq
  obtain ⟨g, hg, rfl⟩ := List.mem_map.mp hf
  have hlf : '\n' ∉ g.value.key := fun hmem => hkey (heq ▸ mem_bareEnds (by decide) hmem)
  refine h g.value (List.mem_map_of_mem hg) ?_
  rw [← heq]
  exact (bareEnds_of_not_mem_lf hlf).symm

theorem FieldsClose.bareEnds {s back : Text} (h : FieldsClose s back) :
    FieldsClose (Text.bareEnds s) back := by
  have hsuffix : ∀ c t, c ≠ '\n' → c :: t <:+ Text.bareEnds s →
      ∃ u, c :: u <:+ s ∧ Text.bareEnds u = t := by
    rintro c t hc ⟨front, ht⟩
    obtain ⟨front', back', rfl, _, hback⟩ := exists_of_bareEnds_eq_append_cons hc ht.symm
    exact ⟨back', List.suffix_append _ _, hback⟩
  constructor
  · intro t ht hopens
    obtain ⟨u, hu, rfl⟩ := hsuffix '[' t (by decide) ht
    exact mem_bareEnds (by decide) (h.square u hu hopens.of_bareEnds_append)
  · intro t ht hopens
    obtain ⟨u, hu, rfl⟩ := hsuffix '(' t (by decide) ht
    exact (h.round u hu hopens.of_bareEnds_append).imp_left (mem_bareEnds (by decide))

/-! ## Texts free of a key -/

/-- Whether a text has no field under a key, from whatever line on it is read. -/
def KeyFree (key s : Text) : Prop :=
  ∀ front back, s = front ++ back → AtLineStart front → fieldsUnder back key = []

section

variable {key s blanks : Text}

theorem KeyFree.fieldsUnder_eq (h : KeyFree key s) : fieldsUnder s key = [] :=
  h [] s rfl atLineStart_nil

/-- Blanks at the end of a text can go. -/
theorem KeyFree.of_append_inKey (h : KeyFree key (s ++ blanks))
    (hblanks : ∀ c ∈ blanks, inKey c = true) : KeyFree key s := by
  intro front back hs hfront
  have hall := h front (back ++ blanks) (by rw [hs, List.append_assoc]) hfront
  rwa [fieldsUnder_append_inKey hblanks] at hall

/-- Blanks at the beginning of a text can go, if no line begins among them. -/
theorem KeyFree.of_inKey_append (h : KeyFree key (blanks ++ s))
    (hblanks : ∀ c ∈ blanks, inKey c = true) : KeyFree key s := by
  intro front back hs hfront
  cases front with
  | nil =>
      have hall := h.fieldsUnder_eq
      rw [fieldsUnder_inKey_append hblanks, List.map_eq_nil_iff] at hall
      rw [← hall, hs]
      rfl
  | cons c front =>
      refine h (blanks ++ c :: front) back (by rw [hs, List.append_assoc]) ?_
      exact (atLineStart_append_iff (List.cons_ne_nil c front)).mpr hfront

/-- **Texts free of a key one after the other.** -/
theorem KeyFree.append {front : Text} (hfront : KeyFree key front) (hs : KeyFree key s)
    (hcloses : FieldsClose front s) : KeyFree key (front ++ s) := by
  intro first last heq hfirst
  rcases List.append_eq_append_iff.mp heq with ⟨mid, rfl, rfl⟩ | ⟨mid, rfl, rfl⟩
  · -- the reading begins in the second text
    cases mid with
    | nil => exact hs.fieldsUnder_eq
    | cons c mid =>
        exact hs (c :: mid) last rfl
          ((atLineStart_append_iff (List.cons_ne_nil c mid)).mp hfirst)
  · rw [fieldsUnder_append (hcloses.of_suffix (List.suffix_append _ _)), hs.fieldsUnder_eq,
      hfront first mid rfl hfirst]
    rfl

/-- **A text free of a key with bare ends.** -/
theorem KeyFree.bareEnds (h : KeyFree key s) (hkey : '\n' ∉ key) :
    KeyFree key (Text.bareEnds s) := by
  intro front back heq hfront
  obtain ⟨front', back', rfl, rfl, rfl⟩ := exists_of_bareEnds_eq_append heq
  exact fieldsUnder_bareEnds_eq_nil hkey (h front' back' rfl hfront.of_bareEnds)

theorem keyFree_of_inKey (h : ∀ c ∈ s, inKey c = true) : KeyFree key s := by
  rintro front back rfl _
  exact fieldsUnder_of_inKey (fun c hc => h c (List.mem_append_right _ hc)) key

end

end NoteVault
