import NoteVault.Proofs.Line.FieldPattern

/-!
# The spans of fields

The fields of a text are found at spans that come one behind the other. A span is a field as it is
written: a bracket, a key, two colons, a value, and the first bracket behind it that closes the
first one. So nothing in front of a span or behind it has a part in the field, which is found alike
in the span alone, and the fields behind it are those of the text behind it.

Nor is a field missed. At each span stands the first match of the pattern, and a place where the
pattern matches at all is the beginning of a span or inside of one.

## Main definitions

* `InlineField.closer` — the bracket that closes another one.
* `Found.span` — the text of a span.
* `FieldSpans` — what holds of the spans of all fields.

## Main results

* `InlineField.exists_parts_of_recognise` — a field as it is written.
* `inlineFields_spans` — what holds of the fields of all texts.
-/

namespace NoteVault

open Text InlineField

/-- The text of a span. -/
def Found.span {α : Type} (f : Found α) (s : Text) : Text := (s.take f.stop).drop f.start

theorem Found.span_append {α : Type} {f : Found α} {front mark : Text} (back : Text)
    (hstart : f.start = front.length) (hstop : f.stop = f.start + mark.length) :
    f.span (front ++ (mark ++ back)) = mark := by
  have hlength : f.stop = (front ++ mark).length := by
    rw [hstop, hstart, List.length_append]
  unfold span
  rw [← List.append_assoc, hlength, List.take_left, hstart, List.drop_left]

namespace InlineField

/-- The bracket that closes another one. -/
def closer (wrapping : Char) : Char := if wrapping = '[' then ']' else ')'

/-- **A field as it is written.** -/
theorem exists_parts_of_recognise {mark back : Text} {f : InlineField}
    (h : recognise (mark ++ back) = some (f, back)) :
    ∃ key value, mark = f.wrapping :: key ++ ':' :: ':' :: value ++ [closer f.wrapping] ∧
      (f.wrapping = '[' ∨ f.wrapping = '(') ∧ (∀ c ∈ key, inKey c = true) ∧
      closer f.wrapping ∉ value ∧ f.key = strip key ∧ f.value = strip value := by
  have hparts : ∀ wrapping closing rest, mark ++ back = wrapping :: rest →
      inside? wrapping closing rest = some (f, back) →
      ∃ key value, mark = wrapping :: key ++ ':' :: ':' :: value ++ [closing] ∧
        (∀ c ∈ key, inKey c = true) ∧ closing ∉ value ∧ f = ⟨strip key, strip value, wrapping⟩ := by
    intro wrapping closing rest hmark hinside
    obtain ⟨key, value, ⟨rfl, _, hkey⟩, hvalue, hf⟩ := inside?_eq_some_iff.mp hinside
    refine ⟨key, value, (List.append_left_inj back).mp ?_, hkey, hvalue, hf⟩
    rw [hmark]
    simp
  unfold recognise at h
  split at h
  · next rest hrest =>
      obtain ⟨key, value, hmark, hkey, hvalue, rfl⟩ := hparts _ _ _ hrest h
      exact ⟨key, value, hmark, Or.inl rfl, hkey, hvalue, rfl, rfl⟩
  · next rest hrest =>
      obtain ⟨key, value, hmark, hkey, hvalue, rfl⟩ := hparts _ _ _ hrest h
      exact ⟨key, value, hmark, Or.inr rfl, hkey, hvalue, rfl, rfl⟩
  · cases h

end InlineField

/-- What holds of the spans at which the fields of a text are found. -/
structure FieldSpans (s : Text) (found : List (Found InlineField)) : Prop where
  /-- They come one behind the other. -/
  apart : found.Pairwise fun f g => f.stop ≤ g.start
  /-- Each is a piece of the text. -/
  within : ∀ f ∈ found, f.start < f.stop ∧ f.stop ≤ s.length
  /-- It begins with the bracket of the field, a square or a round one. -/
  opens : ∀ f ∈ found, (f.value.wrapping = '[' ∨ f.value.wrapping = '(') ∧
    (f.span s).head? = some f.value.wrapping
  /-- It ends with the bracket that closes this one. -/
  closes : ∀ f ∈ found, (f.span s).getLast? = some (closer f.value.wrapping)
  /-- The key has no blanks around it, and no brackets and colons in it. -/
  key : ∀ f ∈ found, strip f.value.key = f.value.key ∧
    ∀ c ∈ ['[', ']', '(', ')', ':'], c ∉ f.value.key
  /-- The value has no blanks around it, and not the closing bracket in it. -/
  value : ∀ f ∈ found, strip f.value.value = f.value.value ∧
    closer f.value.wrapping ∉ f.value.value
  /-- In the span alone there is this one field. -/
  alone : ∀ f ∈ found, (inlineFields (f.span s)).map (Found.shift f.start) = [f]
  /-- In the text behind the span there are the later fields. -/
  later : ∀ earlier f later, found = earlier ++ f :: later →
    (inlineFields (s.drop f.stop)).map (Found.shift f.stop) = later
  /-- At the span stands the first match of the pattern. -/
  first : ∀ f ∈ found, (matchesOf (s.drop f.start)).head? = some (f.value, s.drop f.stop)
  /-- Wherever the pattern matches, there is a span. -/
  covers : ∀ place, matchesOf (s.drop place) ≠ [] →
    ∃ f ∈ found, f.start ≤ place ∧ place < f.stop

/-! ## One field -/

section

variable {s : Text} {f : Found InlineField}

/-- A field as it stands in a text. -/
theorem exists_span_of_mem (h : f ∈ inlineFields s) :
    ∃ front mark back, s = front ++ (mark ++ back) ∧ f.span s = mark ∧ mark ≠ [] ∧
      f.start = front.length ∧ f.stop = f.start + mark.length ∧
      recognise (mark ++ back) = some (f.value, back) := by
  obtain ⟨front, mark, back, _, rfl, _, hne, hstart, hstop, hmark⟩ :=
    exists_scansTo_of_mem recognise_consumes h
  exact ⟨front, mark, back, rfl, f.span_append back hstart hstop, hne, hstart, hstop, hmark⟩

/-- A field is made of the parts that are written in its span. -/
theorem exists_parts_of_mem (h : f ∈ inlineFields s) :
    ∃ key value,
      f.span s = f.value.wrapping :: key ++ ':' :: ':' :: value ++ [closer f.value.wrapping] ∧
      (f.value.wrapping = '[' ∨ f.value.wrapping = '(') ∧ (∀ c ∈ key, inKey c = true) ∧
      closer f.value.wrapping ∉ value ∧ f.value.key = strip key ∧ f.value.value = strip value := by
  obtain ⟨front, mark, back, rfl, hspan, _, _, _, hmark⟩ := exists_span_of_mem h
  rw [hspan]
  exact exists_parts_of_recognise hmark

theorem within_of_mem (h : f ∈ inlineFields s) : f.start < f.stop ∧ f.stop ≤ s.length := by
  obtain ⟨front, mark, back, rfl, _, hne, hstart, hstop, _⟩ := exists_span_of_mem h
  have hpos := List.length_pos_iff.mpr hne
  simp only [List.length_append]
  omega

/-- The key has none of the characters that end a key. -/
theorem key_of_mem (h : f ∈ inlineFields s) : strip f.value.key = f.value.key ∧
    ∀ c ∈ ['[', ']', '(', ')', ':'], c ∉ f.value.key := by
  obtain ⟨key, value, _, _, hkey, _, hstrip, _⟩ := exists_parts_of_mem h
  have hends : ∀ c ∈ ['[', ']', '(', ')', ':'], inKey c = false := fun c hc =>
    inKey_eq_false_iff.mpr (by simpa using hc)
  rw [hstrip, strip_strip]
  exact ⟨rfl, fun c hc hmem => not_mem_of_inKey hkey (hends c hc) (mem_of_mem_strip hmem)⟩

/-- The value reaches to its closing bracket. -/
theorem value_of_mem (h : f ∈ inlineFields s) : strip f.value.value = f.value.value ∧
    closer f.value.wrapping ∉ f.value.value := by
  obtain ⟨key, value, _, _, _, hvalue, _, hstrip⟩ := exists_parts_of_mem h
  rw [hstrip, strip_strip]
  exact ⟨rfl, fun hmem => hvalue (mem_of_mem_strip hmem)⟩

/-- **In the span of a field alone** there is this one field. -/
theorem inlineFields_span (h : f ∈ inlineFields s) :
    (inlineFields (f.span s)).map (Found.shift f.start) = [f] := by
  obtain ⟨front, mark, back, rfl, hspan, hne, _, hstop, hmark⟩ := exists_span_of_mem h
  -- the field is read whatever stands behind it
  have hbare : recognise (mark ++ []) = some (f.value, []) := (recognise_behind hne hmark).1 []
  have hscan : inlineFields mark = [⟨f.value, 0, mark.length⟩] := by
    have hmarks := scan_of_recognise hne hbare
    rw [List.append_nil] at hmarks
    exact hmarks
  have hshift : (⟨f.value, 0, mark.length⟩ : Found InlineField).shift f.start = f := by
    rw [Found.shift, Nat.zero_add, Nat.add_comm, ← hstop]
  rw [hspan, hscan, List.map_singleton, hshift]

/-- **At the span of a field** stands the first match of the pattern. -/
theorem head?_matchesOf_of_mem (h : f ∈ inlineFields s) :
    (matchesOf (s.drop f.start)).head? = some (f.value, s.drop f.stop) := by
  obtain ⟨front, mark, back, rfl, _, _, hstart, hstop, hmark⟩ := exists_span_of_mem h
  have hdropStart : (front ++ (mark ++ back)).drop f.start = mark ++ back := by
    simp [hstart]
  have hdropStop : (front ++ (mark ++ back)).drop f.stop = back := by
    simp [hstop, hstart]
  rw [hdropStart, hdropStop, ← recognise_eq_head?, hmark]

/-- **No field is missed.** -/
theorem exists_mem_of_matchesOf {place : Nat} (h : matchesOf (s.drop place) ≠ []) :
    ∃ f ∈ inlineFields s, f.start ≤ place ∧ place < f.stop := by
  have hrecognise : recognise (s.drop place) ≠ none := by
    rw [recognise_eq_head?]
    exact fun hnone => h (List.head?_eq_none_iff.mp hnone)
  have hplace : (s.take place).length = place := by
    refine List.length_take_of_le (Nat.le_of_not_lt fun hlong => h ?_)
    rw [List.drop_eq_nil_of_le (Nat.le_of_lt hlong)]
    rfl
  have hfound := exists_mem_scan_of_recognise recognise_consumes (s.take place) hrecognise
  rwa [List.take_append_drop, hplace] at hfound

end

/-! ## All fields -/

/-- **What holds of the fields of all texts.** -/
theorem inlineFields_spans (s : Text) : FieldSpans s (inlineFields s) where
  apart := pairwise_scan recognise_consumes s
  within _ := within_of_mem
  opens f hf := by
    obtain ⟨key, value, hspan, hwrapping, _⟩ := exists_parts_of_mem hf
    rw [hspan]
    exact ⟨hwrapping, rfl⟩
  closes f hf := by
    obtain ⟨key, value, hspan, _⟩ := exists_parts_of_mem hf
    rw [hspan]
    exact List.getLast?_concat
  key _ := key_of_mem
  value _ := value_of_mem
  alone _ := inlineFields_span
  later _ _ _ := later_eq_scan recognise_consumes
  first _ := head?_matchesOf_of_mem
  covers _ := exists_mem_of_matchesOf

example : (inlineFields "[x [due:: (a) ] (k::v").map (fun f => (f.value, f.start, f.stop)) =
    [(⟨"due", "(a)", '['⟩, 3, 15)] := by decide

end NoteVault
