import NoteVault.Proofs.Line.InlineField

/-!
# The one field under a key

Setting a field looks for the fields under its key. Where there is one, and no bracket in front
of it begins a field that is closed only behind it, the text in front and the text behind have
fields of their own, and only the field between them changes.

## Main results

* `fieldsUnder_append` — the fields of two texts one after the other.
* `setField_of_free`, `setField_none_of_free` — a text without field under the key.
* `OneField.setField_some`, `OneField.setField_none` — a text with one.
* `exists_oneField` — the one field under a key stands where it was found.
-/

namespace NoteVault

open Text InlineField

/-- The fields of a text that have a key. -/
def fieldsUnder (s key : Text) : List (Found InlineField) :=
  (inlineFields s).filter fun f => f.value.key = key

/-- The values that the fields of a text have under a key. -/
def valuesUnder (s key : Text) : List Text := (fieldsUnder s key).map (·.value.value)

theorem isBlank_of_isLineBlank {c : Char} (h : isLineBlank c = true) : isBlank c = true := by
  simp only [isLineBlank, Bool.or_eq_true, decide_eq_true_eq] at h
  rcases h with rfl | rfl <;> decide

/-- Whether every bracket in a text that begins a field, there or together with `back` behind
the text, is closed in the text. A round bracket may also stay open for good. -/
structure FieldsClose (s back : Text) : Prop where
  /-- Square brackets are closed. -/
  square : ∀ t, '[' :: t <:+ s → Opens (t ++ back) → ']' ∈ t
  /-- Round brackets are closed, or not closed behind the text either. -/
  round : ∀ t, '(' :: t <:+ s → Opens (t ++ back) → ')' ∈ t ∨ ')' ∉ back

/-! ## Brackets that are closed -/

theorem cons_suffix_append {c : Char} {t front back : Text} (h : c :: t <:+ front ++ back) :
    c :: t <:+ back ∨ ∃ u, c :: u <:+ front ∧ t = u ++ back := by
  rcases List.suffix_or_suffix_of_suffix h (List.suffix_append front back) with hback | hback
  · exact Or.inl hback
  · obtain ⟨u, hu⟩ := hback
    cases u with
    | nil =>
        rw [List.nil_append] at hu
        exact Or.inl (hu ▸ List.suffix_rfl)
    | cons d u =>
        obtain ⟨rfl, rfl⟩ := List.cons.inj hu
        have hall : (d :: u) ++ back <:+ front ++ back := h
        exact Or.inr ⟨u, List.suffix_append_self_iff.mp hall, rfl⟩

theorem FieldsClose.of_suffix {s t back : Text} (h : FieldsClose s back) (ht : t <:+ s) :
    FieldsClose t back where
  square u hu := h.square u (hu.trans ht)
  round u hu := h.round u (hu.trans ht)

/-- Two texts one after the other. -/
theorem FieldsClose.append {front s back : Text} (hfront : FieldsClose front (s ++ back))
    (hs : FieldsClose s back) : FieldsClose (front ++ s) back where
  square t ht hopens := by
    rcases cons_suffix_append ht with ht | ⟨u, hu, rfl⟩
    · exact hs.square t ht hopens
    · rw [List.append_assoc] at hopens
      exact List.mem_append_left _ (hfront.square u hu hopens)
  round t ht hopens := by
    rcases cons_suffix_append ht with ht | ⟨u, hu, rfl⟩
    · exact hs.round t ht hopens
    · rw [List.append_assoc] at hopens
      rcases hfront.round u hu hopens with hclose | hclose
      · exact Or.inl (List.mem_append_left _ hclose)
      · exact Or.inr fun hback => hclose (List.mem_append_right _ hback)

/-- Brackets that are closed one and all close the fields they begin. -/
theorem fieldsClose_of_closed {s : Text} (hsquare : ∀ t, '[' :: t <:+ s → ']' ∈ t)
    (hround : ∀ t, '(' :: t <:+ s → ')' ∈ t) (back : Text) : FieldsClose s back where
  square t ht _ := hsquare t ht
  round t ht _ := Or.inl (hround t ht)

/-- What stands behind a text matters only for the fields that it lets begin. -/
theorem FieldsClose.of_opens {s back back' : Text} (h : FieldsClose s back)
    (hopens : ∀ t, Opens (t ++ back') → Opens (t ++ back)) (hround : ')' ∈ back' → ')' ∈ back) :
    FieldsClose s back' where
  square t ht ho := h.square t ht (hopens t ho)
  round t ht ho := (h.round t ht (hopens t ho)).imp_right fun hnot hmem => hnot (hround hmem)

/-- A text without brackets has none to close. -/
theorem fieldsClose_of_inKey {s : Text} (h : ∀ c ∈ s, inKey c = true) (back : Text) :
    FieldsClose s back where
  square _ ht := absurd (ht.subset List.mem_cons_self) (not_mem_of_inKey h rfl)
  round _ ht := absurd (ht.subset List.mem_cons_self) (not_mem_of_inKey h rfl)

/-- Blanks at the end of a text close nothing. -/
theorem FieldsClose.of_append_inKey {s blanks back : Text} (h : FieldsClose (s ++ blanks) back)
    (hblanks : ∀ c ∈ blanks, inKey c = true) (hback : back.head? ≠ some ':') :
    FieldsClose s back := by
  have hsuffix : ∀ c t, c :: t <:+ s → c :: (t ++ blanks) <:+ s ++ blanks := by
    intro c t ht
    show (c :: t) ++ blanks <:+ s ++ blanks
    exact List.suffix_append_self_iff.mpr ht
  constructor
  · intro t ht ho
    have hmem := h.square _ (hsuffix _ _ ht) (ho.insert_inKey hblanks hback)
    exact (List.mem_append.mp hmem).resolve_right (not_mem_of_inKey hblanks rfl)
  · intro t ht ho
    refine (h.round _ (hsuffix _ _ ht) (ho.insert_inKey hblanks hback)).imp_left fun hmem => ?_
    exact (List.mem_append.mp hmem).resolve_right (not_mem_of_inKey hblanks rfl)

/-! ## Fields of texts one after the other -/

/-- A text has its own fields if what stands behind it closes none that it begins. -/
theorem undisturbed_of_brackets {s back : Text}
    (hsquare : ∀ t, '[' :: t <:+ s → Opens (t ++ back) → ']' ∈ t ∨ ']' ∉ back)
    (hround : ∀ t, '(' :: t <:+ s → Opens (t ++ back) → ')' ∈ t ∨ ')' ∉ back) :
    Undisturbed recognise s back := by
  intro t hne ht
  obtain ⟨c, t, rfl⟩ := List.exists_cons_of_ne_nil hne
  by_cases hopen : c = '['
  · subst hopen
    exact inside?_append rfl (by decide) (hsquare t ht)
  · by_cases hparen : c = '('
    · subst hparen
      exact inside?_append rfl (by decide) (hround t ht)
    · rw [List.cons_append, recognise_eq_none, recognise_eq_none, Option.map_none]
      all_goals simp [hopen, hparen]

theorem FieldsClose.undisturbed {s back : Text} (h : FieldsClose s back) :
    Undisturbed recognise s back :=
  undisturbed_of_brackets (fun t ht ho => Or.inl (h.square t ht ho)) h.round

/-- **The fields of two texts one after the other.** -/
theorem fieldsUnder_append {s back : Text} (h : FieldsClose s back) (key : Text) :
    fieldsUnder (s ++ back) key =
      fieldsUnder s key ++ (fieldsUnder back key).map (Found.shift s.length) := by
  unfold fieldsUnder inlineFields
  rw [scan_append recognise_consumes h.undisturbed, List.filter_append, List.filter_map]
  rfl

theorem inlineFields_of_inKey {s : Text} (h : ∀ c ∈ s, inKey c = true) : inlineFields s = [] := by
  refine scan_eq_nil fun t hne ht => ?_
  have hhead : ∀ c, inKey c = false → t.head? ≠ some c := fun c hc hhead =>
    not_mem_of_inKey h hc (ht.subset (List.mem_of_mem_head? hhead))
  exact recognise_eq_none (hhead '[' rfl) (hhead '(' rfl)

theorem fieldsUnder_of_inKey {s : Text} (h : ∀ c ∈ s, inKey c = true) (key : Text) :
    fieldsUnder s key = [] := by
  unfold fieldsUnder
  rw [inlineFields_of_inKey h, List.filter_nil]

/-- Blanks behind a text have no part in its fields. -/
theorem inlineFields_append_inKey {blanks : Text} (h : ∀ c ∈ blanks, inKey c = true) (s : Text) :
    inlineFields (s ++ blanks) = inlineFields s := by
  have hundisturbed : Undisturbed recognise s blanks :=
    undisturbed_of_brackets (fun _ _ _ => Or.inr (not_mem_of_inKey h rfl))
      fun _ _ _ => Or.inr (not_mem_of_inKey h rfl)
  have hblanks := inlineFields_of_inKey h
  unfold inlineFields at hblanks ⊢
  rw [scan_append recognise_consumes hundisturbed, hblanks, List.map_nil, List.append_nil]

theorem fieldsUnder_append_inKey {blanks : Text} (h : ∀ c ∈ blanks, inKey c = true)
    (s key : Text) : fieldsUnder (s ++ blanks) key = fieldsUnder s key := by
  unfold fieldsUnder
  rw [inlineFields_append_inKey h]

/-- Blanks before a text only shift its fields. -/
theorem fieldsUnder_inKey_append {blanks : Text} (h : ∀ c ∈ blanks, inKey c = true)
    (s key : Text) :
    fieldsUnder (blanks ++ s) key = (fieldsUnder s key).map (Found.shift blanks.length) := by
  rw [fieldsUnder_append (fieldsClose_of_inKey h s), fieldsUnder_of_inKey h, List.nil_append]

/-- A field at the beginning of a text. -/
theorem fieldsUnder_of_recognise {mark back key : Text} {f : InlineField} (hne : mark ≠ [])
    (h : recognise (mark ++ back) = some (f, back)) (hkey : f.key = key) :
    fieldsUnder (mark ++ back) key =
      ⟨f, 0, mark.length⟩ :: (fieldsUnder back key).map (Found.shift mark.length) := by
  unfold fieldsUnder inlineFields
  rw [scan_of_recognise hne h, List.filter_cons_of_pos (by simpa using hkey), List.filter_map]
  rfl

/-! ## A text without field under the key -/

theorem setField_none_of_free {s key : Text} (h : fieldsUnder s key = []) :
    setField s key none = s := by
  unfold fieldsUnder at h
  unfold setField
  rw [h]
  rfl

theorem setField_of_free {s key value : Text} (h : fieldsUnder s key = []) (hvalue : value ≠ []) :
    setField s key (some value) = stripEnd s ++ ' ' :: bracketed key value := by
  have hempty : value.isEmpty = false := by simpa using hvalue
  unfold fieldsUnder at h
  unfold setField
  rw [h]
  simp [hempty]

/-! ## A text with one field under the key -/

theorem setField_some_of_fieldsUnder {key front mark back value : Text} {f : InlineField}
    (h : fieldsUnder (front ++ (mark ++ back)) key =
      [⟨f, front.length, front.length + mark.length⟩]) (hvalue : value ≠ []) :
    setField (front ++ (mark ++ back)) key (some value) =
      front ++ (bracketed key value ++ back) := by
  have hempty : value.isEmpty = false := by simpa using hvalue
  unfold fieldsUnder at h
  unfold setField
  rw [h]
  simp [hempty]

theorem setField_none_of_fieldsUnder {key front mark back : Text} {f : InlineField}
    (h : fieldsUnder (front ++ (mark ++ back)) key =
      [⟨f, front.length, front.length + mark.length⟩]) :
    setField (front ++ (mark ++ back)) key none = closeGap front back := by
  unfold fieldsUnder at h
  unfold setField
  rw [h]
  simp

/-- A text in three parts, of which the middle one is its one field under a key. -/
structure OneField (key front mark back : Text) (f : InlineField) : Prop where
  /-- No field begins in front and ends behind. -/
  closes : FieldsClose front (mark ++ back)
  /-- The field takes up some text. -/
  ne_nil : mark ≠ []
  /-- It is read there. -/
  recognised : recognise (mark ++ back) = some (f, back)
  /-- It has the key. -/
  key_eq : f.key = key
  /-- There is no such field in front. -/
  front_free : fieldsUnder front key = []
  /-- There is none behind. -/
  back_free : fieldsUnder back key = []

section

variable {key front mark back value : Text} {f : InlineField}

theorem OneField.fieldsUnder_eq (h : OneField key front mark back f) :
    fieldsUnder (front ++ (mark ++ back)) key =
      [⟨f, front.length, front.length + mark.length⟩] := by
  rw [fieldsUnder_append h.closes, fieldsUnder_of_recognise h.ne_nil h.recognised h.key_eq,
    h.front_free, h.back_free]
  simp [Found.shift, Nat.add_comm]

/-- **The field gets another value where it stands.** -/
theorem OneField.setField_some (h : OneField key front mark back f) (hvalue : value ≠ []) :
    setField (front ++ (mark ++ back)) key (some value) =
      front ++ (bracketed key value ++ back) :=
  setField_some_of_fieldsUnder h.fieldsUnder_eq hvalue

/-- **The field is taken away where it stands.** -/
theorem OneField.setField_none (h : OneField key front mark back f) :
    setField (front ++ (mark ++ back)) key none = closeGap front back :=
  setField_none_of_fieldsUnder h.fieldsUnder_eq

end

/-- **The one field under a key stands where it was found.** -/
theorem exists_oneField {s key : Text} {f : Found InlineField} (h : fieldsUnder s key = [f])
    (hcloses : FieldsClose (s.take f.start) (s.drop f.start)) :
    ∃ mark, s.drop f.start = mark ++ s.drop f.stop ∧
      OneField key (s.take f.start) mark (s.drop f.stop) f.value := by
  have hmem : f ∈ fieldsUnder s key := h ▸ List.mem_singleton_self f
  have hkey : f.value.key = key := by simpa using (List.mem_filter.mp hmem).2
  obtain ⟨front, mark, back, _, rfl, _, hne, hstart, hstop, hrecognise⟩ :=
    exists_scansTo_of_mem recognise_consumes (List.mem_filter.mp hmem).1
  have htake : (front ++ (mark ++ back)).take f.start = front := by
    simp [hstart]
  have hdrop : (front ++ (mark ++ back)).drop f.start = mark ++ back := by
    simp [hstart]
  have hdropStop : (front ++ (mark ++ back)).drop f.stop = back := by
    simp [hstop, hstart]
  rw [htake, hdrop] at hcloses
  rw [htake, hdrop, hdropStop]
  -- the one field that there is is the one read in the middle
  rw [fieldsUnder_append hcloses, fieldsUnder_of_recognise hne hrecognise hkey] at h
  have hcount := congrArg List.length h
  simp only [List.length_append, List.length_map, List.length_cons, List.length_nil] at hcount
  exact ⟨mark, rfl, hcloses, hne, hrecognise, hkey,
    List.eq_nil_of_length_eq_zero (by omega), List.eq_nil_of_length_eq_zero (by omega)⟩

end NoteVault
