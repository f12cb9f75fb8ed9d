import Mathlib.Data.List.Infix
import NoteVault.Proofs.Line.FieldsUnder
import NoteVault.Proofs.Value.Lookup

/-!
# Setting a field

A text is edited at one place, and the fields of the new text are those of a scan that begins at
its left end again. Nothing may begin in front of the place that did not begin there before. A
bracket inside an earlier field can be left open and plays no role, because the scan does not come
to it; so what has to be looked at is the way of the scan to the place. Every bracket on the way
that begins no field still begins none: a square one has a closing bracket somewhere behind it, so
that it lacks the key or the colons, and these lie in front of the place; a round one that lacks
only a closing bracket goes on lacking it, as the written field has none of its own.

Where a field is replaced, that place is the beginning of the field. Where a field is new, it is
the end of the text.

## Main results

* `ScansTo.change_behind` — the way to a place does not depend on what stands behind.
* `SoleField.written` — a field is written in the place of the one under its key.
* `setField_puts` — what setting a field does to a text and to its fields.
-/

namespace NoteVault

open Text InlineField

/-! ## Pairs of keys and values -/

/-- The keys of the fields of a text, each with its value. -/
def fieldPairs (s : Text) : List (Text × Text) :=
  (inlineFields s).map fun f => (f.value.key, f.value.value)

/-- Places play no role in pairs. -/
theorem map_pair_shift (k : Nat) (found : List (Found InlineField)) :
    (found.map (Found.shift k)).map (fun f => (f.value.key, f.value.value)) =
      found.map fun f => (f.value.key, f.value.value) := by
  rw [List.map_map]
  rfl

/-! ## The way to a place -/

section

variable {front old new : Text} {marks : List (Found InlineField)}

namespace InlineField

variable {wrapping closing : Char}

/-- A bracket that begins no field begins none when other text stands behind, if that text
neither opens the field nor closes it. -/
theorem inside?_change_behind (hinKey : inKey closing = false) (hcolon : closing ≠ ':')
    (hnone : inside? wrapping closing (front ++ old) = none)
    (hopens : Opens (front ++ new) → Opens front)
    (hclose : closing ∉ front ++ old → closing ∉ new) :
    inside? wrapping closing (front ++ new) = none := by
  by_cases hnew : Opens (front ++ new)
  · obtain ⟨key, rest, hfront⟩ := hopens hnew
    have hrest : closing ∉ rest ++ old := by
      intro hmem
      obtain ⟨value, after, heq, hvalue⟩ := List.eq_append_cons_of_mem hmem
      have hopening := hfront.append old
      rw [heq] at hopening
      rw [inside?_of_mem hopening hvalue] at hnone
      cases hnone
    have hall : closing ∉ front ++ old := by
      have hkey : closing ∉ key := not_mem_of_inKey hfront.2.2 hinKey
      rw [hfront.1]
      simpa [hkey, hcolon] using hrest
    refine inside?_of_not_mem (hfront.append new) fun hmem => ?_
    rcases List.mem_append.mp hmem with hmem | hmem
    · exact hrest (List.mem_append_left old hmem)
    · exact hclose hall hmem
  · exact inside?_of_not_opens hnew

theorem recognise_change_behind {c : Char} (hnone : recognise (c :: (front ++ old)) = none)
    (hopens : Opens (front ++ new) → Opens front) (hsquare : c = '[' → ']' ∈ front ++ old)
    (hround : ')' ∉ old → ')' ∉ new) : recognise (c :: (front ++ new)) = none := by
  by_cases hopen : c = '['
  · subst hopen
    exact inside?_change_behind rfl (by decide) hnone hopens fun h => absurd (hsquare rfl) h
  · by_cases hparen : c = '('
    · subst hparen
      refine inside?_change_behind rfl (by decide) hnone hopens fun h => hround fun hmem => ?_
      exact h (List.mem_append_right front hmem)
    · exact recognise_eq_none (by simpa using hopen) (by simpa using hparen)

end InlineField

/-- **The way to a place does not depend on what stands behind**, if that lets no bracket in front
begin a field, closes no round bracket that nothing closed, and no square bracket was open. -/
theorem Text.ScansTo.change_behind (h : ScansTo recognise front old marks)
    (hopens : ∀ t, Opens (t ++ new) → Opens t) (hsquare : ∀ t, '[' :: t <:+ front → ']' ∈ t ++ old)
    (hround : ')' ∉ old → ')' ∉ new) : ScansTo recognise front new marks := by
  induction h with
  | nil => exact .nil new
  | @cons c front _ _ hnone _ ih =>
      refine .cons ?_ (ih (fun t ht => hsquare t (ht.trans (List.suffix_cons c front))) hround)
      refine recognise_change_behind hnone (hopens front) (fun hc => ?_) hround
      exact hsquare front (hc ▸ List.suffix_rfl)
  | @mark mark front _ _ _ hne hmark _ ih =>
      refine .mark hne ((recognise_behind hne hmark).1 _) (ih (fun t ht => ?_) hround)
      exact hsquare t (ht.trans (List.suffix_append mark front))

end

/-! ## The one field under a key -/

/-- A text in three parts. The scan comes to the middle one, and that is its one field under a
key. -/
structure SoleField (key front mark back : Text) (f : InlineField)
    (marks : List (Found InlineField)) : Prop where
  /-- The scan comes to the field. -/
  scans : ScansTo recognise front (mark ++ back) marks
  /-- The field takes up some text. -/
  ne_nil : mark ≠ []
  /-- It is read there. -/
  recognised : recognise (mark ++ back) = some (f, back)
  /-- It has the key. -/
  key_eq : f.key = key
  /-- No field on the way has it. -/
  front_free : ∀ g ∈ marks, g.value.key ≠ key
  /-- No field behind has it. -/
  back_free : fieldsUnder back key = []

/-- A key and a value that are read as they are written, the value without closing brackets. -/
structure IsWritten (key value : Text) : Prop where
  /-- There is a key. -/
  key_ne_nil : key ≠ []
  /-- It has no blanks around it. -/
  key_strip : strip key = key
  /-- It has no brackets and no colons. -/
  key_inKey : ∀ c ∈ key, inKey c = true
  /-- There is a value. -/
  value_ne_nil : value ≠ []
  /-- It has no blanks around it. -/
  value_strip : strip value = value
  /-- It closes no square bracket. -/
  value_square : ']' ∉ value
  /-- It closes no round bracket. -/
  value_round : ')' ∉ value

section

variable {s key value front mark back old : Text} {f : InlineField}
  {marks : List (Found InlineField)}

/-- The fields of a text in three parts, the scan coming to a field in the middle. -/
theorem inlineFields_of_scansTo (hscan : ScansTo recognise front (mark ++ back) marks)
    (hne : mark ≠ []) (hmark : recognise (mark ++ back) = some (f, back)) :
    inlineFields (front ++ (mark ++ back)) =
      marks ++ ⟨f, front.length, front.length + mark.length⟩ ::
        (inlineFields back).map (Found.shift (front.length + mark.length)) := by
  unfold inlineFields
  rw [hscan.scan_eq, scan_of_recognise hne hmark, List.map_cons, List.map_map]
  congr 2
  · simp [Found.shift, Nat.add_comm]
  · exact List.map_congr_left fun g _ => g.shift_shift _ _

theorem fieldsUnder_of_scansTo (hscan : ScansTo recognise front (mark ++ back) marks)
    (hne : mark ≠ []) (hmark : recognise (mark ++ back) = some (f, back)) (hkey : f.key = key) :
    fieldsUnder (front ++ (mark ++ back)) key =
      marks.filter (fun g => g.value.key = key) ++
        ⟨f, front.length, front.length + mark.length⟩ ::
          (fieldsUnder back key).map (Found.shift (front.length + mark.length)) := by
  unfold fieldsUnder
  rw [inlineFields_of_scansTo hscan hne hmark, List.filter_append,
    List.filter_cons_of_pos (by simpa using hkey), List.filter_map]
  rfl

theorem SoleField.inlineFields_eq (h : SoleField key front mark back f marks) :
    inlineFields (front ++ (mark ++ back)) =
      marks ++ ⟨f, front.length, front.length + mark.length⟩ ::
        (inlineFields back).map (Found.shift (front.length + mark.length)) :=
  inlineFields_of_scansTo h.scans h.ne_nil h.recognised

theorem SoleField.fieldsUnder_eq (h : SoleField key front mark back f marks) :
    fieldsUnder (front ++ (mark ++ back)) key =
      [⟨f, front.length, front.length + mark.length⟩] := by
  have hmarks : marks.filter (fun g => g.value.key = key) = [] :=
    List.filter_eq_nil_iff.mpr fun g hg => by simpa using h.front_free g hg
  rw [fieldsUnder_of_scansTo h.scans h.ne_nil h.recognised h.key_eq, hmarks, h.back_free]
  rfl

theorem SoleField.setField_some (h : SoleField key front mark back f marks) (hvalue : value ≠ []) :
    setField (front ++ (mark ++ back)) key (some value) =
      front ++ (bracketed key value ++ back) :=
  setField_some_of_fieldsUnder h.fieldsUnder_eq hvalue

theorem SoleField.fieldPairs_eq (h : SoleField key front mark back f marks) :
    fieldPairs (front ++ (mark ++ back)) =
      marks.map (fun g => (g.value.key, g.value.value)) ++ (key, f.value) :: fieldPairs back := by
  unfold fieldPairs
  rw [h.inlineFields_eq, List.map_append, List.map_cons, map_pair_shift, h.key_eq]

/-- Putting a value under the key changes one pair. -/
theorem SoleField.putUnder_eq (h : SoleField key front mark back f marks) (value : Text) :
    putUnder key value (fieldPairs (front ++ (mark ++ back))) =
      marks.map (fun g => (g.value.key, g.value.value)) ++ (key, value) :: fieldPairs back := by
  rw [h.fieldPairs_eq, putUnder_append]
  · rw [putUnder, if_pos rfl]
  · intro p hp
    obtain ⟨g, hg, rfl⟩ := List.mem_map.mp hp
    exact h.front_free g hg

/-- **The scan comes to each field that it finds**, and if that is the one field under its key,
it meets no other one on the way or behind. -/
theorem exists_soleField {g : Found InlineField} (hg : g ∈ fieldsUnder s key)
    (honce : (fieldsUnder s key).length ≤ 1) :
    ∃ front mark back marks, s = front ++ (mark ++ back) ∧
      SoleField key front mark back g.value marks := by
  obtain ⟨hmem, hkey⟩ := List.mem_filter.mp hg
  obtain ⟨front, mark, back, marks, rfl, hscan, hne, _, _, hmark⟩ :=
    exists_scansTo_of_mem recognise_consumes hmem
  have hkey : g.value.key = key := of_decide_eq_true hkey
  rw [fieldsUnder_of_scansTo hscan hne hmark hkey, List.length_append, List.length_cons,
    List.length_map] at honce
  refine ⟨front, mark, back, marks, rfl, hscan, hne, hmark, hkey, ?_, ?_⟩
  · intro f hf heq
    have hunder : f ∈ marks.filter fun f => f.value.key = key :=
      List.mem_filter.mpr ⟨hf, decide_eq_true heq⟩
    have hpos := List.length_pos_of_mem hunder
    omega
  · exact List.eq_nil_of_length_eq_zero (by omega)

/-! ## Writing a field -/

theorem opens_of_append_written {t : Text}
    (h : Opens (t ++ (bracketed key value ++ back))) : Opens t := by
  refine h.of_append_bracket fun c hc => ?_
  obtain rfl : '[' = c := Option.some.inj hc
  exact ⟨rfl, by decide⟩

theorem IsWritten.round_not_mem (hwritten : IsWritten key value) :
    ')' ∉ bracketed key value := by
  have hkey : ')' ∉ key := not_mem_of_inKey hwritten.key_inKey rfl
  simp [bracketed, hkey, hwritten.value_round]

/-- **A field is written behind a place that a scan comes to.** The brackets in front must have
been closed, and if a round bracket is closed now, it was closed before. -/
theorem IsWritten.soleField (hwritten : IsWritten key value)
    (hscan : ScansTo recognise front old marks)
    (hsquare : ∀ t, '[' :: t <:+ front → ']' ∈ t ++ old) (hround : ')' ∉ old → ')' ∉ back)
    (hfront : ∀ g ∈ marks, g.value.key ≠ key) (hback : fieldsUnder back key = []) :
    SoleField key front (bracketed key value) back ⟨key, value, '['⟩ marks where
  scans := by
    refine hscan.change_behind (fun t ht => opens_of_append_written ht) hsquare
      fun hold hmem => ?_
    exact (List.mem_append.mp hmem).elim hwritten.round_not_mem (hround hold)
  ne_nil := List.cons_ne_nil _ _
  recognised := recognise_written hwritten.key_ne_nil hwritten.key_strip hwritten.key_inKey
    hwritten.value_strip hwritten.value_square back
  key_eq := rfl
  front_free := hfront
  back_free := hback

/-- **A field is written in the place of the one under its key.** -/
theorem SoleField.written (h : SoleField key front mark back f marks)
    (hclosed : ∀ t, '[' :: t <:+ front ++ (mark ++ back) → ']' ∈ t)
    (hwritten : IsWritten key value) :
    SoleField key front (bracketed key value) back ⟨key, value, '['⟩ marks := by
  refine hwritten.soleField h.scans (fun t ht => hclosed _ ?_)
    (fun hmem hback => hmem (List.mem_append_right mark hback)) h.front_free h.back_free
  exact List.suffix_append_self_iff.mpr ht

/-- **A field is written behind a text that has none under its key.** -/
theorem soleField_of_free (hfree : fieldsUnder s key = [])
    (hclosed : ∀ t, '[' :: t <:+ s → ']' ∈ t) (hwritten : IsWritten key value) :
    SoleField key (stripEnd s ++ [' ']) (bracketed key value) [] ⟨key, value, '['⟩
      (inlineFields s) := by
  obtain ⟨cut, hcut, hblank⟩ := exists_dropEndWhile_append isBlank s
  have hinKey : ∀ c ∈ cut, inKey c = true := fun c hc => inKey_of_isBlank (hblank c hc)
  have hfields : inlineFields s = scan recognise (stripEnd s ++ [' ']) := by
    have hblanks := inlineFields_append_inKey inKey_of_mem_blank (stripEnd s)
    have hstripped := inlineFields_append_inKey hinKey (stripEnd s)
    exact (congrArg inlineFields hcut).trans (hstripped.trans hblanks.symm)
  refine hwritten.soleField (hfields ▸ scansTo_end recognise_consumes _) (fun t ht => ?_)
    (fun _ => List.not_mem_nil) (fun g hg heq => ?_) rfl
  · -- the bracket stands in front of the blanks, and so does what closes it
    rw [List.append_nil]
    rcases cons_suffix_append ht with ht | ⟨u, hu, rfl⟩
    · exact absurd (ht.subset List.mem_cons_self) (by decide)
    · have hs : '[' :: (u ++ cut) <:+ s := by
        rw [hcut]
        exact List.suffix_append_self_iff.mpr hu
      have hmem := (List.mem_append.mp (hclosed _ hs)).resolve_right (not_mem_of_inKey hinKey rfl)
      exact List.mem_append_left _ hmem
  · have hmem : g ∈ fieldsUnder s key := List.mem_filter.mpr ⟨hg, decide_eq_true heq⟩
    rw [hfree] at hmem
    cases hmem

end

/-! ## Setting a field -/

/-- What a text has become when a field was set in it. -/
structure FieldPut (s key value result : Text) : Prop where
  /-- The fields are those there were, with the value under its key. -/
  pairs : fieldPairs result = putUnder key value (fieldPairs s)
  /-- If there was a field with the key, the new one stands in its place, and all around it is
  what was there. -/
  around : ∀ f ∈ fieldsUnder s key, ∃ front mark back, s = front ++ (mark ++ back) ∧
    f.start = front.length ∧ f.stop = f.start + mark.length ∧
    result = front ++ (bracketed key value ++ back)
  /-- If there was none, it stands behind the text, which loses blanks at its end. -/
  behind : fieldsUnder s key = [] → result = stripEnd s ++ ' ' :: bracketed key value
  /-- Setting the field once more overrides this. -/
  overridden : ∀ value', value' ≠ [] →
    setField result key (some value') = setField s key (some value')

section

variable {s key value front mark back : Text} {f : InlineField} {marks : List (Found InlineField)}

/-- A new field comes last. -/
theorem fieldPut_of_free (hfree : fieldsUnder s key = [])
    (hclosed : ∀ t, '[' :: t <:+ s → ']' ∈ t) (hwritten : IsWritten key value) :
    FieldPut s key value (setField s key (some value)) := by
  have hnew := soleField_of_free hfree hclosed hwritten
  have hresult : ∀ value', value' ≠ [] → setField s key (some value') =
      stripEnd s ++ [' '] ++ (bracketed key value' ++ []) := by
    intro value' hne
    rw [setField_of_free hfree hne]
    simp
  have hpairs : ∀ p ∈ fieldPairs s, p.1 ≠ key := by
    intro p hp
    obtain ⟨g, hg, rfl⟩ := List.mem_map.mp hp
    exact hnew.front_free g hg
  rw [hresult value hwritten.value_ne_nil]
  refine ⟨?_, fun f hf => ?_, fun _ => ?_, fun value' hne => ?_⟩
  · rw [hnew.fieldPairs_eq, ← List.append_nil (fieldPairs s), putUnder_append hpairs]
    rfl
  · rw [hfree] at hf
    cases hf
  · simp
  · rw [hnew.setField_some hne, hresult value' hne]

/-- A field that is there is replaced. -/
theorem SoleField.fieldPut (h : SoleField key front mark back f marks)
    (hclosed : ∀ t, '[' :: t <:+ front ++ (mark ++ back) → ']' ∈ t)
    (hwritten : IsWritten key value) :
    FieldPut (front ++ (mark ++ back)) key value
      (setField (front ++ (mark ++ back)) key (some value)) := by
  have hnew := h.written hclosed hwritten
  rw [h.setField_some hwritten.value_ne_nil]
  refine ⟨?_, fun g hg => ?_, fun hfree => ?_, fun value' hne => ?_⟩
  · rw [hnew.fieldPairs_eq, h.putUnder_eq]
  · rw [h.fieldsUnder_eq, List.mem_singleton] at hg
    rw [hg]
    exact ⟨front, mark, back, rfl, rfl, rfl, rfl⟩
  · rw [h.fieldsUnder_eq] at hfree
    cases hfree
  · rw [hnew.setField_some hne, h.setField_some hne]

end

/-- **What setting a field does.** Every square bracket of the text has to be closed somewhere
behind it, and the key must not be there more than once. -/
theorem setField_puts {s key value : Text} (hclosed : ∀ t, '[' :: t <:+ s → ']' ∈ t)
    (hwritten : IsWritten key value) (honce : (fieldsUnder s key).length ≤ 1) :
    FieldPut s key value (setField s key (some value)) := by
  by_cases hfree : fieldsUnder s key = []
  · exact fieldPut_of_free hfree hclosed hwritten
  · obtain ⟨g, hg⟩ := List.exists_mem_of_ne_nil _ hfree
    obtain ⟨front, mark, back, marks, rfl, hold⟩ := exists_soleField hg honce
    exact hold.fieldPut hclosed hwritten

/-- A text whose first field leaves a square bracket open, which is closed only behind the second
one. -/
def openBracketText : Text := "(a:: [b:: c) (k:: v) ] d"

theorem setField_puts_openBracket :
    (∀ t, '[' :: t <:+ openBracketText → ']' ∈ t) ∧ IsWritten "k" "new" ∧
      (fieldsUnder openBracketText "k").length ≤ 1 ∧
      setField openBracketText "k" (some "new") = "(a:: [b:: c) [k:: new] ] d".toList ∧
      FieldPut openBracketText "k" "new" (setField openBracketText "k" (some "new")) := by
  have htails : ∀ u ∈ openBracketText.tails, u.head? = some '[' → ']' ∈ u.tail := by decide
  have hclosed : ∀ t, '[' :: t <:+ openBracketText → ']' ∈ t :=
    fun t ht => htails _ ((List.mem_tails _ _).mpr ht) rfl
  have hwritten : IsWritten "k" "new" :=
    ⟨by decide, by decide, List.all_eq_true.mp rfl, by decide, by decide, by decide, by decide⟩
  have honce : (fieldsUnder openBracketText "k").length ≤ 1 := by decide
  exact ⟨hclosed, hwritten, honce, by decide, setField_puts hclosed hwritten honce⟩

end NoteVault
