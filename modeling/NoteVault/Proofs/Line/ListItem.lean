import NoteVault.Line.ListItem
import NoteVault.Proofs.Text.Span
import NoteVault.Proofs.Text.Strip

/-!
# The parts of a list item

What the line grammar takes off a line is a marker, and what it leaves as the body of the
item is an end of the line that begins with no blank. Conversely a line put together of
blanks, a marker, a checkbox and such a body is read back as just these parts, however much
the body looks like a marker or a checkbox of its own.

The grammar is written for texts that may end with a line feed. The lines of a note hold
none, so the results here are about texts without line feeds, and there the body is
everything that is left.

## Main results

* `takeMarker?_append`, `takeMarker?_eq_some` — markers are taken off whole, and nothing
  else is.
* `ListItem.ofLine?_eq_some` — what is known of the item on a line.
* `ListItem.ofLine?_marker` — what is behind a marker is an item.
* `ListItem.ofLine?_checkbox` — an item with a checkbox is read back from its parts.
* `ListItem.ofLine?_front` — a line is what stands in front of the marker, the marker, and the
  rest.
* `leadingBlanks_eq_markerFront_iff` — the blanks at the beginning of a line are all that stands
  in front of the marker only if there is no quote mark.
-/

namespace NoteVault

open Text

/-! ## Markers -/

/-- The list markers. -/
inductive IsMarker : Text → Prop
  /-- A bullet. -/
  | bullet (c : Char) (h : c = '-' ∨ c = '*' ∨ c = '+') : IsMarker [c]
  /-- A number with a dot or a bracket. -/
  | number (digits : Text) (closing : Char) (hne : digits ≠ [])
      (hdigits : ∀ c ∈ digits, isDigit c = true) (hclosing : closing = '.' ∨ closing = ')') :
      IsMarker (digits ++ [closing])

/-- A marker begins with a bullet or with a digit. -/
theorem IsMarker.exists_cons {marker : Text} (h : IsMarker marker) :
    ∃ c rest, marker = c :: rest ∧ (isDigit c = true ∨ c = '-' ∨ c = '*' ∨ c = '+') := by
  cases h with
  | bullet c h => exact ⟨c, [], rfl, Or.inr h⟩
  | number digits closing hne hdigits hclosing =>
      obtain ⟨c, rest, rfl⟩ := List.exists_cons_of_ne_nil hne
      exact ⟨c, rest ++ [closing], rfl, Or.inl (hdigits c List.mem_cons_self)⟩

/-- No character of a marker is blank. -/
theorem IsMarker.not_blank {marker : Text} (h : IsMarker marker) {c : Char} (hc : c ∈ marker) :
    isBlank c = false := by
  cases h with
  | bullet d h =>
      rw [List.mem_singleton.mp hc]
      rcases h with rfl | rfl | rfl <;> decide
  | number digits closing hne hdigits hclosing =>
      rcases List.mem_append.mp hc with hc | hc
      · exact isBlank_of_isDigit (hdigits c hc)
      · rw [List.mem_singleton.mp hc]
        rcases hclosing with rfl | rfl <;> decide

theorem IsMarker.not_mem {marker : Text} (h : IsMarker marker) {c : Char}
    (hc : isBlank c = true) : c ∉ marker := by
  intro hmem
  rw [h.not_blank hmem] at hc
  cases hc

theorem isQuoteOrBlank_of_isBlank {c : Char} (h : isBlank c = true) : isQuoteOrBlank c = true := by
  unfold isQuoteOrBlank
  rw [h, Bool.true_or]

/-- What can stand in front of a marker does not begin one. -/
theorem IsMarker.head_not_quoteOrBlank {marker : Text} (h : IsMarker marker) {c : Char}
    (hc : marker.head? = some c) : isQuoteOrBlank c = false := by
  obtain ⟨d, rest, rfl, hd⟩ := h.exists_cons
  have hblank : isBlank d = false := h.not_blank List.mem_cons_self
  have hquote : d ≠ '>' := by
    rintro rfl
    revert hd
    decide
  rw [← Option.some.inj hc]
  unfold isQuoteOrBlank
  rw [hblank, Bool.false_or]
  exact decide_eq_false hquote

/-- **A marker is taken off whole.** -/
theorem takeMarker?_append {marker : Text} (h : IsMarker marker) (rest : Text) :
    takeMarker? (marker ++ rest) = some (marker, rest) := by
  cases h with
  | bullet c h => rcases h with rfl | rfl | rfl <;> rfl
  | number digits closing hne hdigits hclosing =>
      have hdigit : isDigit closing = false := by
        rcases hclosing with rfl | rfl <;> decide
      have hends : EndsAt isDigit (closing :: rest) := endsAt_cons.mpr hdigit
      obtain ⟨htake, hdrop⟩ := span_append hdigits hends
      obtain ⟨d, ds, rfl⟩ := List.exists_cons_of_ne_nil hne
      have hd := hdigits d List.mem_cons_self
      rw [List.append_assoc, List.singleton_append]
      unfold takeMarker?
      split
      · next h => cases h; exact absurd hd (by decide)
      · next h => cases h; exact absurd hd (by decide)
      · next h => cases h; exact absurd hd (by decide)
      · rw [htake, hdrop]
        rcases hclosing with rfl | rfl <;> rfl

/-- **Nothing but a marker is taken off.** -/
theorem takeMarker?_eq_some {s marker rest : Text} (h : takeMarker? s = some (marker, rest)) :
    IsMarker marker ∧ s = marker ++ rest := by
  have hs : s.takeWhile isDigit ++ s.dropWhile isDigit = s := List.takeWhile_append_dropWhile
  have hdigits : ∀ c ∈ s.takeWhile isDigit, isDigit c = true := fun c hc =>
    List.mem_takeWhile_imp hc
  unfold takeMarker? at h
  split at h
  · cases h
    exact ⟨.bullet '-' (by decide), rfl⟩
  · cases h
    exact ⟨.bullet '*' (by decide), rfl⟩
  · cases h
    exact ⟨.bullet '+' (by decide), rfl⟩
  · split at h
    · cases h
    · next tail hdrop hne =>
        cases h
        rw [hdrop] at hs
        exact ⟨.number _ '.' hne hdigits (Or.inl rfl), by rw [List.append_assoc]; exact hs.symm⟩
    · next tail hdrop hne =>
        cases h
        rw [hdrop] at hs
        exact ⟨.number _ ')' hne hdigits (Or.inr rfl), by rw [List.append_assoc]; exact hs.symm⟩
    · cases h

/-! ## Checkbox and body -/

theorem takeCheckbox_suffix (s : Text) : (takeCheckbox s).2 <:+ s := by
  unfold takeCheckbox
  split
  · next c rest =>
      split
      · exact List.suffix_rfl
      · exact ⟨['[', c, ']'], rfl⟩
  · next rest => exact ⟨['[', ']'], rfl⟩
  · exact List.suffix_rfl

theorem takeCheckbox_status {c : Char} (hc : c ≠ '\n') (rest : Text) :
    takeCheckbox ('[' :: c :: ']' :: rest) = (some [c], rest) := by
  unfold takeCheckbox
  exact if_neg hc

theorem bodyOf?_of_not_mem {s : Text} (h : '\n' ∉ s) : bodyOf? s = some s := by
  have hall : ∀ c ∈ s, (c != '\n') = true := by
    intro c hc
    exact bne_iff_ne.mpr fun heq => h (heq ▸ hc)
  unfold bodyOf?
  rw [List.dropWhile_eq_nil_iff.mpr hall, List.takeWhile_eq_self_iff.mpr hall]

/-! ## Items -/

/-- **What is known of the item on a line**: its marker is one, and its body is an end of the
line that begins with no blank. -/
theorem ListItem.ofLine?_eq_some {line : Text} (hlf : '\n' ∉ line) {item : ListItem}
    (h : ListItem.ofLine? line = some item) :
    IsMarker item.symbol ∧ item.body <:+ line ∧ stripStart item.body = item.body := by
  unfold ListItem.ofLine? at h
  simp only [Option.bind_eq_bind, Option.bind_eq_some_iff, Option.pure_def] at h
  obtain ⟨⟨symbol, rest⟩, hmarker, body, hbody, hitem⟩ := h
  obtain ⟨hsymbol, hrest⟩ := takeMarker?_eq_some hmarker
  have hafter : rest <:+ line := by
    have hmarked : rest <:+ line.dropWhile isQuoteOrBlank := ⟨symbol, hrest.symm⟩
    exact hmarked.trans (List.dropWhile_suffix _)
  have hbox : (takeCheckbox (stripStart rest)).2 <:+ rest :=
    (takeCheckbox_suffix _).trans (List.dropWhile_suffix _)
  have hsuffix : stripStart (takeCheckbox (stripStart rest)).2 <:+ line :=
    (List.dropWhile_suffix _).trans (hbox.trans hafter)
  rw [bodyOf?_of_not_mem fun hmem => hlf (hsuffix.subset hmem)] at hbody
  cases hbody
  cases hitem
  exact ⟨hsymbol, hsuffix, stripStart_stripStart _⟩

/-- The item that a marker and what follows it make up. -/
def ListItem.behind (symbol rest : Text) : ListItem :=
  ⟨symbol, (takeCheckbox (stripStart rest)).1, stripStart (takeCheckbox (stripStart rest)).2⟩

/-- **A line that has a marker behind quote marks and blanks is an item.** -/
theorem ListItem.ofLine?_marker {front symbol rest : Text}
    (hfront : ∀ c ∈ front, isQuoteOrBlank c = true) (hsymbol : IsMarker symbol)
    (hlf : '\n' ∉ rest) :
    ListItem.ofLine? (front ++ symbol ++ rest) = some (ListItem.behind symbol rest) := by
  have hdrop : (symbol ++ rest).dropWhile isQuoteOrBlank = symbol ++ rest := by
    obtain ⟨d, ds, rfl, _⟩ := hsymbol.exists_cons
    rw [List.cons_append, List.dropWhile_cons, hsymbol.head_not_quoteOrBlank rfl]
    rfl
  have hbody : '\n' ∉ stripStart (takeCheckbox (stripStart rest)).2 := by
    have hsuffix : stripStart (takeCheckbox (stripStart rest)).2 <:+ rest :=
      (List.dropWhile_suffix _).trans ((takeCheckbox_suffix _).trans (List.dropWhile_suffix _))
    exact fun hmem => hlf (hsuffix.subset hmem)
  unfold ListItem.ofLine?
  rw [List.append_assoc, List.dropWhile_append_of_pos hfront, hdrop, takeMarker?_append hsymbol]
  simp only [Option.bind_eq_bind, Option.bind_some, bodyOf?_of_not_mem hbody, Option.pure_def]
  rfl

/-- An item with a checkbox is read back from its parts, its body without the blanks at the
beginning. -/
theorem ListItem.ofLine?_checkbox_stripStart {indent symbol body : Text} {c : Char}
    (hindent : ∀ d ∈ indent, isBlank d = true) (hsymbol : IsMarker symbol) (hc : c ≠ '\n')
    (hlf : '\n' ∉ body) :
    ListItem.ofLine? (indent ++ symbol ++ ' ' :: '[' :: c :: ']' :: ' ' :: body) =
      some ⟨symbol, some [c], stripStart body⟩ := by
  have hquote : ∀ d ∈ indent, isQuoteOrBlank d = true := fun d hd =>
    isQuoteOrBlank_of_isBlank (hindent d hd)
  have hrest : '\n' ∉ ' ' :: '[' :: c :: ']' :: ' ' :: body := by
    simp [hc.symm, hlf]
  have hblank (rest : Text) : stripStart (' ' :: rest) = stripStart rest := rfl
  have hbracket (rest : Text) : stripStart ('[' :: rest) = '[' :: rest := rfl
  rw [ListItem.ofLine?_marker hquote hsymbol hrest]
  unfold ListItem.behind
  rw [hblank, hbracket, takeCheckbox_status hc]
  rfl

/-- **An item with a checkbox is read back from its parts.** -/
theorem ListItem.ofLine?_checkbox {indent symbol body : Text} {c : Char}
    (hindent : ∀ d ∈ indent, isBlank d = true) (hsymbol : IsMarker symbol) (hc : c ≠ '\n')
    (hlf : '\n' ∉ body) (hbody : stripStart body = body) :
    ListItem.ofLine? (indent ++ symbol ++ ' ' :: '[' :: c :: ']' :: ' ' :: body) =
      some ⟨symbol, some [c], body⟩ := by
  rw [ListItem.ofLine?_checkbox_stripStart hindent hsymbol hc hlf, hbody]

/-- The blanks at the beginning of a line are blanks of the line. -/
theorem mem_leadingBlanks {line : Text} {c : Char} (h : c ∈ leadingBlanks line) :
    isBlank c = true ∧ c ∈ line :=
  ⟨List.mem_takeWhile_imp h, (List.takeWhile_prefix isBlank).subset h⟩

/-! ## In front of the marker -/

/-- What stands in front of the list marker of a line. -/
def markerFront (line : Text) : Text := line.takeWhile isQuoteOrBlank

/-- **A line is what stands in front of the marker, the marker, and the rest.** -/
theorem ListItem.ofLine?_front {line : Text} {item : ListItem}
    (h : ListItem.ofLine? line = some item) :
    ∃ rest, line = markerFront line ++ item.symbol ++ rest := by
  unfold ListItem.ofLine? at h
  simp only [Option.bind_eq_bind, Option.bind_eq_some_iff, Option.pure_def] at h
  obtain ⟨⟨symbol, rest⟩, hmarker, body, _, hitem⟩ := h
  obtain ⟨_, hrest⟩ := takeMarker?_eq_some hmarker
  cases hitem
  refine ⟨rest, ?_⟩
  rw [List.append_assoc, ← hrest]
  exact List.takeWhile_append_dropWhile.symm

/-- Blanks in front of a marker are all that stands in front of it. -/
theorem markerFront_append {indent symbol : Text} (hindent : ∀ c ∈ indent, isBlank c = true)
    (hsymbol : IsMarker symbol) (rest : Text) :
    markerFront (indent ++ symbol ++ rest) = indent := by
  have hquote : ∀ c ∈ indent, isQuoteOrBlank c = true := fun c hc =>
    isQuoteOrBlank_of_isBlank (hindent c hc)
  obtain ⟨c, tail, rfl, _⟩ := hsymbol.exists_cons
  have hc : isQuoteOrBlank c = false := hsymbol.head_not_quoteOrBlank rfl
  unfold markerFront
  rw [List.append_assoc, List.cons_append]
  exact (span_append hquote (endsAt_cons.mpr hc)).1

/-- The blanks at the beginning of a line are those in front of the first quote mark. -/
theorem leadingBlanks_eq_takeWhile (line : Text) :
    leadingBlanks line = (markerFront line).takeWhile isBlank := by
  unfold leadingBlanks markerFront
  rw [List.takeWhile_takeWhile]
  congr 1
  funext c
  have himp : isBlank c = true → isBlank c = true ∨ c = '>' := Or.inl
  simpa [isQuoteOrBlank] using himp

/-- **The blanks at the beginning of a line are all that stands in front of the marker** if and
only if there is no quote mark. -/
theorem leadingBlanks_eq_markerFront_iff (line : Text) :
    leadingBlanks line = markerFront line ↔ '>' ∉ markerFront line := by
  rw [leadingBlanks_eq_takeWhile, List.takeWhile_eq_self_iff]
  constructor
  · intro hblank hmem
    exact absurd (hblank '>' hmem) (by decide)
  · intro hquote c hc
    have hfront : isQuoteOrBlank c = true := List.mem_takeWhile_imp hc
    unfold isQuoteOrBlank at hfront
    rcases Bool.or_eq_true_iff.mp hfront with hblank | hmark
    · exact hblank
    · rw [of_decide_eq_true hmark] at hc
      exact absurd hc hquote

end NoteVault
