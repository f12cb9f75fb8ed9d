import NoteVault.Proofs.Line.ListItem

/-!
# The grammar of list items

A list item is quote marks and blanks, a marker, blanks, perhaps a checkbox, blanks, and a body
that begins with no blank. Every line that is read as an item can be put together in this way, and
a line that is put together so is read as an item.

It need not be the same item, since not all parts tell where they end. A body that begins like a
checkbox is taken for one if there is no checkbox in front of it, and an empty checkbox takes up
a bracket that follows at once. In all other cases the item has the parts of which the line was
put together.

## Main results

* `takeCheckbox_eq_append` — what is taken off as a checkbox is one.
* `takeCheckbox_some_iff`, `takeCheckbox_none_iff` — which checkbox is taken off.
* `ItemParts.ofLine?_line_iff` — which parts are found again.
* `ListItem.ofLine?_grammar` — the lines that are items, and their parts.
-/

namespace NoteVault

open Text

/-! ## Checkboxes -/

/-- A checkbox as it is written, if there is one. -/
def checkboxText : Option Text → Text
  | none => []
  | some status => '[' :: status ++ [']']

section

variable {s status back : Text}

/-- **What is taken off as a checkbox is one**, with at most one character in it. -/
theorem takeCheckbox_eq_append (s : Text) :
    s = checkboxText (takeCheckbox s).1 ++ (takeCheckbox s).2 ∧
      ∀ status, (takeCheckbox s).1 = some status → status.length ≤ 1 := by
  unfold takeCheckbox
  split
  · next c rest =>
      split
      · exact ⟨rfl, nofun⟩
      · exact ⟨rfl, fun status h => Option.some.inj h ▸ Nat.le_refl 1⟩
  · next rest => exact ⟨rfl, fun status h => Option.some.inj h ▸ Nat.zero_le 1⟩
  · exact ⟨rfl, nofun⟩

/-- An empty checkbox is taken off if no other bracket follows. -/
theorem takeCheckbox_empty (h : back.head? ≠ some ']') :
    takeCheckbox ('[' :: ']' :: back) = (some [], back) := by
  unfold takeCheckbox
  split
  · next heq =>
      cases heq
      exact absurd rfl h
  · next heq =>
      cases heq
      rfl
  · next hempty => exact absurd rfl (hempty back)

/-- **Which checkbox is taken off where one is written**: an empty one takes up a bracket that
follows. -/
theorem takeCheckbox_some (hlength : status.length ≤ 1) (hlf : '\n' ∉ status) (back : Text) :
    (takeCheckbox (checkboxText (some status) ++ back)).1 =
      if status = [] ∧ back.head? = some ']' then some [']'] else some status := by
  match status with
  | [] =>
      show (takeCheckbox ('[' :: ']' :: back)).1 = _
      by_cases hbracket : back.head? = some ']'
      · obtain ⟨rest, rfl⟩ := List.head?_eq_some_iff.mp hbracket
        rw [takeCheckbox_status (by decide), if_pos ⟨rfl, rfl⟩]
      · rw [takeCheckbox_empty hbracket, if_neg fun h => hbracket h.2]
  | [c] =>
      have hc : c ≠ '\n' := fun heq => hlf (heq ▸ List.mem_singleton_self _)
      show (takeCheckbox ('[' :: c :: ']' :: back)).1 = _
      rw [takeCheckbox_status hc, if_neg fun h => List.cons_ne_nil c [] h.1]
  | _ :: _ :: _ => simp at hlength

/-- **A checkbox is taken off as it was written** unless it is empty and takes up a bracket. -/
theorem takeCheckbox_some_iff (hlength : status.length ≤ 1) (hlf : '\n' ∉ status) :
    (takeCheckbox (checkboxText (some status) ++ back)).1 = some status ↔
      ¬ (status = [] ∧ back.head? = some ']') := by
  rw [takeCheckbox_some hlength hlf]
  split
  · next h => simp [h]
  · next h => exact iff_of_true rfl h

/-- **No checkbox is taken off** exactly where none is written. -/
theorem takeCheckbox_none_iff (hlf : '\n' ∉ s) : (takeCheckbox s).1 = none ↔
    ¬ ∃ status rest, status.length ≤ 1 ∧ s = checkboxText (some status) ++ rest := by
  constructor
  · rintro hnone ⟨status, rest, hlength, rfl⟩
    have hstatus : '\n' ∉ status := fun hmem => hlf (by simp [checkboxText, hmem])
    rw [takeCheckbox_some hlength hstatus] at hnone
    split at hnone <;> cases hnone
  · intro hnot
    obtain ⟨happend, hlength⟩ := takeCheckbox_eq_append s
    cases hbox : (takeCheckbox s).1 with
    | none => rfl
    | some status =>
        rw [hbox] at happend
        exact absurd ⟨status, _, hlength status hbox, happend⟩ hnot

end

/-! ## The parts of an item -/

/-- A list item in its parts. -/
structure ItemParts where
  /-- What stands in front of the marker. -/
  front : Text
  /-- The list marker. -/
  symbol : Text
  /-- What stands between marker and checkbox. -/
  gap : Text
  /-- What stands in the checkbox, if there is one. -/
  status : Option Text
  /-- What stands between checkbox and body. -/
  bodyGap : Text
  /-- The body. -/
  body : Text
  /-- In front of the marker there are quote marks and blanks. -/
  isQuoteOrBlank_front : ∀ c ∈ front, isQuoteOrBlank c = true
  /-- The marker is a bullet or a number. -/
  isMarker : IsMarker symbol
  /-- Between marker and checkbox there are blanks. -/
  isBlank_gap : ∀ c ∈ gap, isBlank c = true
  /-- In the checkbox there is at most one character. -/
  length_status : ∀ s, status = some s → s.length ≤ 1
  /-- Between checkbox and body there are blanks. -/
  isBlank_bodyGap : ∀ c ∈ bodyGap, isBlank c = true
  /-- The body begins with no blank. -/
  endsAt_body : EndsAt isBlank body

namespace ItemParts

/-- What stands behind the marker. -/
def rest (p : ItemParts) : Text := p.gap ++ (checkboxText p.status ++ (p.bodyGap ++ p.body))

/-- The line that is put together of the parts. -/
def line (p : ItemParts) : Text := p.front ++ p.symbol ++ p.rest

/-- The item that has the parts. -/
def item (p : ItemParts) : ListItem := ⟨p.symbol, p.status, p.body⟩

/-- Parts that are not found again: there is no checkbox and the body begins like one, or the
checkbox is empty and the body follows at once, beginning with the bracket that closes one. -/
def Ambiguous (p : ItemParts) : Prop :=
  (p.status = none ∧
    ∃ status rest, status.length ≤ 1 ∧ p.body = checkboxText (some status) ++ rest) ∨
  (p.status = some [] ∧ p.bodyGap = [] ∧ p.body.head? = some ']')

variable {p : ItemParts}

theorem stripStart_body (p : ItemParts) : stripStart (p.bodyGap ++ p.body) = p.body :=
  (span_append p.isBlank_bodyGap p.endsAt_body).2

/-- Without a checkbox nothing tells the two gaps apart. -/
theorem stripStart_rest_of_none (h : p.status = none) : stripStart p.rest = p.body := by
  have hgaps : ∀ c ∈ p.gap ++ p.bodyGap, isBlank c = true :=
    List.forall_mem_append.mpr ⟨p.isBlank_gap, p.isBlank_bodyGap⟩
  unfold rest
  rw [h, checkboxText, List.nil_append, ← List.append_assoc]
  exact (span_append hgaps p.endsAt_body).2

theorem stripStart_rest_of_some {status : Text} (h : p.status = some status) :
    stripStart p.rest = checkboxText (some status) ++ (p.bodyGap ++ p.body) := by
  unfold rest
  rw [h]
  exact (span_append p.isBlank_gap (endsAt_cons.mpr (by decide))).2

/-- What follows an empty checkbox begins with a bracket only if the body does, and follows at
once. -/
theorem head?_bodyGap_append_iff (p : ItemParts) : (p.bodyGap ++ p.body).head? = some ']' ↔
    p.bodyGap = [] ∧ p.body.head? = some ']' := by
  cases hgap : p.bodyGap with
  | nil => simp
  | cons c gap =>
      have hblank : isBlank c = true := p.isBlank_bodyGap c (hgap ▸ List.mem_cons_self)
      have hc : c ≠ ']' := by
        rintro rfl
        exact absurd hblank (by decide)
      simp [hc]

/-- What is found behind a marker is what is taken off as a checkbox, and then the body. -/
theorem behind_eq_item_iff {back : Text} (hrest : stripStart p.rest = checkboxText p.status ++ back)
    (hback : stripStart back = p.body) : ListItem.behind p.symbol p.rest = p.item ↔
      (takeCheckbox (checkboxText p.status ++ back)).1 = p.status := by
  unfold ListItem.behind
  rw [hrest]
  constructor
  · exact congrArg ListItem.status
  · intro hstatus
    obtain ⟨happend, _⟩ := takeCheckbox_eq_append (checkboxText p.status ++ back)
    rw [hstatus] at happend
    rw [hstatus, ← List.append_cancel_left happend, hback]
    rfl

theorem behind_eq_item_iff_not_ambiguous (hlf : '\n' ∉ p.rest) :
    ListItem.behind p.symbol p.rest = p.item ↔ ¬ p.Ambiguous := by
  unfold Ambiguous
  cases hstatus : p.status with
  | none =>
      have hbody : '\n' ∉ p.body := fun hmem => hlf (by simp [rest, hmem])
      have hrest : stripStart p.rest = checkboxText p.status ++ p.body := by
        rw [stripStart_rest_of_none hstatus, hstatus]
        rfl
      have hback : stripStart p.body = p.body := stripStart_eq_self_of_head? p.endsAt_body
      rw [behind_eq_item_iff hrest hback, hstatus]
      show (takeCheckbox p.body).1 = none ↔ _
      rw [takeCheckbox_none_iff hbody]
      simp
  | some status =>
      have hstatusLf : '\n' ∉ status := fun hmem =>
        hlf (by simp [rest, hstatus, checkboxText, hmem])
      have hrest : stripStart p.rest = checkboxText p.status ++ (p.bodyGap ++ p.body) := by
        rw [stripStart_rest_of_some hstatus, hstatus]
      rw [behind_eq_item_iff hrest p.stripStart_body, hstatus,
        takeCheckbox_some_iff (p.length_status status hstatus) hstatusLf,
        head?_bodyGap_append_iff]
      simp

/-- **Which parts are found again** in the line that is put together of them. -/
theorem ofLine?_line_iff (hlf : '\n' ∉ p.line) :
    ListItem.ofLine? p.line = some p.item ↔ ¬ p.Ambiguous := by
  have hrest : '\n' ∉ p.rest := fun hmem => hlf (List.mem_append_right _ hmem)
  unfold line
  rw [ListItem.ofLine?_marker p.isQuoteOrBlank_front p.isMarker hrest, Option.some_inj]
  exact behind_eq_item_iff_not_ambiguous hrest

end ItemParts

/-! ## The lines that are items -/

namespace ListItem

variable {line : Text}

/-- **An item has parts**, and its line is put together of them. -/
theorem exists_parts (hlf : '\n' ∉ line) {item : ListItem} (h : ofLine? line = some item) :
    ∃ p : ItemParts, p.line = line ∧ p.item = item := by
  obtain ⟨hmarker, _, _⟩ := ofLine?_eq_some hlf h
  obtain ⟨rest, hline⟩ := ofLine?_front h
  have hfront : ∀ c ∈ markerFront line, isQuoteOrBlank c = true := fun c hc =>
    List.mem_takeWhile_imp hc
  have hitem : behind item.symbol rest = item := by
    have hrest : '\n' ∉ rest := fun hmem => hlf (hline ▸ List.mem_append_right _ hmem)
    rw [hline, ofLine?_marker hfront hmarker hrest] at h
    exact Option.some.inj h
  obtain ⟨hbox, hlength⟩ := takeCheckbox_eq_append (stripStart rest)
  have hgap : rest.takeWhile isBlank ++ stripStart rest = rest := List.takeWhile_append_dropWhile
  have hbodyGap : ∀ s : Text, s.takeWhile isBlank ++ stripStart s = s := fun s =>
    List.takeWhile_append_dropWhile
  let p : ItemParts :=
    { front := markerFront line
      symbol := item.symbol
      gap := rest.takeWhile isBlank
      status := (takeCheckbox (stripStart rest)).1
      bodyGap := (takeCheckbox (stripStart rest)).2.takeWhile isBlank
      body := stripStart (takeCheckbox (stripStart rest)).2
      isQuoteOrBlank_front := hfront
      isMarker := hmarker
      isBlank_gap := fun c hc => List.mem_takeWhile_imp hc
      length_status := hlength
      isBlank_bodyGap := fun c hc => List.mem_takeWhile_imp hc
      endsAt_body := endsAt_dropWhile _ }
  refine ⟨p, ?_, hitem⟩
  have hrest : p.rest = rest := by
    show _ ++ (_ ++ (_ ++ _)) = rest
    rw [hbodyGap, ← hbox, hgap]
  unfold ItemParts.line
  rw [hrest]
  exact hline.symm

/-- What is known of a line and the items it may be. -/
structure Grammar (line : Text) : Prop where
  /-- It is an item exactly if it has a marker behind quote marks and blanks. -/
  accepted_iff : (ofLine? line).isSome = true ↔ ∃ front marker rest,
    (∀ c ∈ front, isQuoteOrBlank c = true) ∧ IsMarker marker ∧ line = front ++ marker ++ rest
  /-- An item has parts, and the line is put together of them. -/
  parts : ∀ item, ofLine? line = some item → ∃ p : ItemParts, p.line = line ∧ p.item = item
  /-- If the line is put together of some parts, it is the item that has them, unless they are
  ambiguous. -/
  found_iff : ∀ p : ItemParts, p.line = line →
    (ofLine? line = some p.item ↔ ¬ p.Ambiguous)

/-- **The lines that are items, and their parts.** -/
theorem ofLine?_grammar (hlf : '\n' ∉ line) : Grammar line where
  accepted_iff := by
    constructor
    · intro h
      obtain ⟨item, hitem⟩ := Option.isSome_iff_exists.mp h
      obtain ⟨p, rfl, _⟩ := exists_parts hlf hitem
      exact ⟨p.front, p.symbol, p.rest, p.isQuoteOrBlank_front, p.isMarker, rfl⟩
    · rintro ⟨front, marker, rest, hfront, hmarker, rfl⟩
      have hrest : '\n' ∉ rest := fun hmem => hlf (List.mem_append_right _ hmem)
      rw [ofLine?_marker hfront hmarker hrest]
      rfl
  parts item h := exists_parts hlf h
  found_iff p hline := by
    rw [← hline] at hlf ⊢
    exact p.ofLine?_line_iff hlf

/-- A numbered item in a quote, with a closing bracket in its checkbox. -/
def bracketLine : Text := "> 12) []] x"

theorem ofLine?_grammar_bracket :
    '\n' ∉ bracketLine ∧ ofLine? bracketLine = some ⟨"12)", some "]", "x"⟩ ∧
      Grammar bracketLine := by
  have hlf : '\n' ∉ bracketLine := by decide
  exact ⟨hlf, by decide, ofLine?_grammar hlf⟩

end ListItem
end NoteVault
