import NoteVault.Link.WikiLink
import NoteVault.Proofs.Text.Scan
import NoteVault.Proofs.Text.Span

/-!
# Link marks as they are written

The parts of a link mark, written one behind the other, are recognised again with the same ends,
whatever stands behind the mark, and nothing else is recognised. Each part ends in front of a
character that it cannot hold: the path in front of `#`, `|` or `]`, the subpath in front of `|`
or `]`, and the text shown in front of `]`. Only the `^` of a block can be misplaced: a header
that begins with it and goes on would be read as a block.

So the marks of a text are pieces of it, a text that is one mark has no other in it, and the
links of a text are those of its marks.

## Main results

* `recognise_eq_some_iff` — what is recognised at the beginning of a text.
* `extractLinks_written` — a text that is one mark has one link.
* `exists_mark_of_mem` — each link of a text is that of a mark.
-/

namespace NoteVault

open Text

namespace WikiLink

/-! ## Writing -/

/-- The subpath, if there is one, as it is written. -/
def writtenSubpath : Option (Bool × Text) → Text
  | none => []
  | some (block, sub) => '#' :: ((if block then ['^'] else []) ++ sub)

/-- The text shown, if there is one, as it is written. -/
def writtenDisplay : Option Text → Text
  | none => []
  | some shown => '|' :: shown

/-- The mark behind `[[`. -/
def inner (w : WikiLink) : Text :=
  w.target ++ (writtenSubpath w.subpath ++ (writtenDisplay w.display ++ [']', ']']))

/-- The mark as it is written. -/
def written (w : WikiLink) : Text := (if w.embed then ['!'] else []) ++ '[' :: '[' :: w.inner

/-- A subpath can be told from what stands around it. A header must not be taken for a block. -/
structure IsSubpath (block : Bool) (sub : Text) : Prop where
  /-- It is there. -/
  nonempty : sub ≠ []
  /-- It goes on to its end. -/
  inside : ∀ c ∈ sub, inSubpath c = true
  /-- A header does not begin with `^`, unless it is nothing else. -/
  caret : block = false → sub.head? = some '^' → sub = ['^']

/-- The text shown can be told from what stands around it. -/
structure IsDisplay (shown : Text) : Prop where
  /-- It is there. -/
  nonempty : shown ≠ []
  /-- It goes on to its end. -/
  inside : ∀ c ∈ shown, (c != ']') = true

/-- The parts of a mark can be told from each other. -/
structure IsMark (w : WikiLink) : Prop where
  /-- There is a path. -/
  nonempty : w.target ≠ []
  /-- The path goes on to its end. -/
  inside : ∀ c ∈ w.target, inTarget c = true
  /-- The subpath, if there is one. -/
  subpath : ∀ block sub, w.subpath = some (block, sub) → IsSubpath block sub
  /-- The text shown, if there is one. -/
  display : ∀ shown, w.display = some shown → IsDisplay shown

/-! ## Subpaths -/

/-- A header, and what follows it. -/
def headerOf (found : Text × Text) : (Bool × Text) × Text := ((false, found.1), found.2)

theorem subpathOf?_caret (rest : Text) :
    subpathOf? ('^' :: rest) =
      match run? inSubpath rest with
      | some (sub, back) => some ((true, sub), back)
      | none => (run? inSubpath ('^' :: rest)).map headerOf := rfl

theorem subpathOf?_of_head? {s : Text} (h : s.head? ≠ some '^') :
    subpathOf? s = (run? inSubpath s).map headerOf := by
  unfold subpathOf?
  split
  · exact absurd rfl h
  · rfl

theorem map_headerOf_eq_some_iff {s sub back : Text} {block : Bool} :
    (run? inSubpath s).map headerOf = some ((block, sub), back) ↔
      block = false ∧ run? inSubpath s = some (sub, back) := by
  cases run? inSubpath s with
  | none => simp
  | some found => simp [headerOf, eq_comm, Prod.ext_iff, and_assoc]

theorem subpathOf?_of_isSubpath {block : Bool} {sub back : Text} (h : IsSubpath block sub)
    (hback : EndsAt inSubpath back) :
    subpathOf? ((if block then ['^'] else []) ++ (sub ++ back)) = some ((block, sub), back) := by
  have hrun : run? inSubpath (sub ++ back) = some (sub, back) :=
    run?_eq_some_iff.mpr ⟨rfl, h.nonempty, h.inside, hback⟩
  cases block with
  | true =>
      show subpathOf? ('^' :: (sub ++ back)) = _
      rw [subpathOf?_caret, hrun]
  | false =>
      show subpathOf? (sub ++ back) = _
      by_cases hcaret : sub.head? = some '^'
      · -- a lone `^`: nothing stands behind it that could be a block
        rw [h.caret rfl hcaret] at hrun ⊢
        show subpathOf? ('^' :: back) = _
        rw [subpathOf?_caret, run?_eq_none_iff.mpr hback]
        exact congrArg (Option.map headerOf) hrun
      · have hhead : (sub ++ back).head? ≠ some '^' := by
          obtain ⟨c, sub, rfl⟩ := List.exists_cons_of_ne_nil h.nonempty
          exact hcaret
        rw [subpathOf?_of_head? hhead, hrun]
        rfl

theorem isSubpath_of_subpathOf? {s sub back : Text} {block : Bool}
    (h : subpathOf? s = some ((block, sub), back)) :
    s = (if block then ['^'] else []) ++ (sub ++ back) ∧ IsSubpath block sub ∧
      EndsAt inSubpath back := by
  by_cases hhead : s.head? = some '^'
  · obtain ⟨rest, rfl⟩ := List.head?_eq_some_iff.mp hhead
    rw [subpathOf?_caret] at h
    split at h
    · next hrun =>
        obtain ⟨hrest, hne, hinside, hback⟩ := run?_eq_some_iff.mp hrun
        cases h
        exact ⟨congrArg _ hrest, ⟨hne, hinside, nofun⟩, hback⟩
    · next hrun =>
        obtain ⟨rfl, hheader⟩ := map_headerOf_eq_some_iff.mp h
        obtain ⟨hs, hne, hinside, hback⟩ := run?_eq_some_iff.mp hheader
        refine ⟨hs, ⟨hne, hinside, fun _ _ => ?_⟩, hback⟩
        -- what stands behind the `^` would be a block, so nothing does
        obtain ⟨c, sub, rfl⟩ := List.exists_cons_of_ne_nil hne
        obtain ⟨hc, hrest⟩ := List.cons.inj hs
        have hends := run?_eq_none_iff.mp hrun
        rw [hrest] at hends
        rw [← hc, eq_nil_of_endsAt (fun d hd => hinside d (List.mem_cons_of_mem _ hd)) hends]
  · rw [subpathOf?_of_head? hhead] at h
    obtain ⟨rfl, hheader⟩ := map_headerOf_eq_some_iff.mp h
    obtain ⟨rfl, hne, hinside, hback⟩ := run?_eq_some_iff.mp hheader
    refine ⟨rfl, ⟨hne, hinside, fun _ hsub => absurd ?_ hhead⟩, hback⟩
    rw [List.head?_append, hsub]
    rfl

/-! ## Optional parts -/

theorem takeSubpath_written {subpath : Option (Bool × Text)} {back : Text}
    (h : ∀ block sub, subpath = some (block, sub) → IsSubpath block sub)
    (hback : EndsAt inSubpath back) :
    takeSubpath (writtenSubpath subpath ++ back) = (subpath, back) := by
  unfold takeSubpath
  cases subpath with
  | none =>
      simp only [writtenSubpath, List.nil_append]
      split
      · exact absurd (endsAt_cons.mp hback) (by decide)
      · rfl
  | some found =>
      obtain ⟨block, sub⟩ := found
      have hsub := subpathOf?_of_isSubpath (h block sub rfl) hback
      simp only [writtenSubpath, List.cons_append, List.append_assoc]
      rw [hsub]

/-- What is taken for the subpath is a subpath or nothing. -/
theorem eq_append_of_takeSubpath {s back : Text} {subpath : Option (Bool × Text)}
    (h : takeSubpath s = (subpath, back)) :
    s = writtenSubpath subpath ++ back ∧
      ∀ block sub, subpath = some (block, sub) → IsSubpath block sub := by
  unfold takeSubpath at h
  split at h
  · next rest =>
      split at h
      · next sub rest' hsub =>
          obtain ⟨block, sub⟩ := sub
          obtain ⟨rfl, hvalid, _⟩ := isSubpath_of_subpathOf? hsub
          cases h
          refine ⟨by simp [writtenSubpath], fun _ _ heq => ?_⟩
          cases heq
          exact hvalid
      · cases h
        exact ⟨rfl, nofun⟩
  · cases h
    exact ⟨rfl, nofun⟩

theorem takeDisplay_bar (rest : Text) :
    takeDisplay ('|' :: rest) =
      (run? (· != ']') rest).elim (none, '|' :: rest) fun found => (some found.1, found.2) := by
  simp only [takeDisplay, run?]
  cases rest.takeWhile (· != ']') <;> rfl

theorem takeDisplay_written {display : Option Text} (back : Text)
    (h : ∀ shown, display = some shown → IsDisplay shown) :
    takeDisplay (writtenDisplay display ++ ']' :: back) = (display, ']' :: back) := by
  cases display with
  | none => rfl
  | some shown =>
      obtain ⟨hne, hinside⟩ := h shown rfl
      have hrun : run? (· != ']') (shown ++ ']' :: back) = some (shown, ']' :: back) :=
        run?_eq_some_iff.mpr ⟨rfl, hne, hinside, endsAt_cons.mpr rfl⟩
      show takeDisplay ('|' :: (shown ++ ']' :: back)) = _
      rw [takeDisplay_bar, hrun]
      rfl

/-- What is taken for the text shown is one or nothing. -/
theorem eq_append_of_takeDisplay {s back : Text} {display : Option Text}
    (h : takeDisplay s = (display, back)) :
    s = writtenDisplay display ++ back ∧ ∀ shown, display = some shown → IsDisplay shown := by
  by_cases hbar : s.head? = some '|'
  · obtain ⟨rest, rfl⟩ := List.head?_eq_some_iff.mp hbar
    rw [takeDisplay_bar] at h
    cases hrun : run? (· != ']') rest with
    | none =>
        rw [hrun] at h
        cases h
        exact ⟨rfl, nofun⟩
    | some found =>
        rw [hrun] at h
        obtain ⟨hrest, hne, hinside, _⟩ := run?_eq_some_iff.mp hrun
        cases h
        refine ⟨congrArg _ hrest, fun _ heq => ?_⟩
        cases heq
        exact ⟨hne, hinside⟩
  · unfold takeDisplay at h
    split at h
    · exact absurd rfl hbar
    · cases h
      exact ⟨rfl, nofun⟩

/-! ## The whole mark -/

theorem endsAt_writtenDisplay (display : Option Text) (back : Text) :
    EndsAt inSubpath (writtenDisplay display ++ ']' :: back) := by
  cases display <;> exact endsAt_cons.mpr rfl

theorem endsAt_writtenSubpath (subpath : Option (Bool × Text)) (display : Option Text)
    (back : Text) :
    EndsAt inTarget (writtenSubpath subpath ++ (writtenDisplay display ++ ']' :: back)) := by
  cases subpath with
  | some found => exact endsAt_cons.mpr rfl
  | none => cases display <;> exact endsAt_cons.mpr rfl

theorem inside?_eq (embed : Bool) (s : Text) :
    inside? embed s =
      match run? inTarget s with
      | none => none
      | some (target, s) =>
        let (subpath, s) := takeSubpath s
        let (display, s) := takeDisplay s
        match s with
        | ']' :: ']' :: rest => some (⟨embed, target, subpath, display⟩, rest)
        | _ => none := by
  unfold inside? run?
  cases s.takeWhile inTarget <;> rfl

theorem inside?_inner {w : WikiLink} (h : IsMark w) (back : Text) :
    inside? w.embed (w.inner ++ back) = some (w, back) := by
  have hsubpath := takeSubpath_written h.subpath
    (endsAt_writtenDisplay w.display (']' :: back))
  have hdisplay := takeDisplay_written (']' :: back) h.display
  have hrun := run?_eq_some_iff.mpr ⟨rfl, h.nonempty, h.inside,
    endsAt_writtenSubpath w.subpath w.display (']' :: back)⟩
  have hinner : w.inner ++ back =
      w.target ++ (writtenSubpath w.subpath ++ (writtenDisplay w.display ++ ']' :: ']' :: back)) := by
    simp [inner]
  rw [hinner, inside?_eq, hrun]
  simp only [hsubpath, hdisplay]

theorem isMark_of_inside? {embed : Bool} {s back : Text} {w : WikiLink}
    (h : inside? embed s = some (w, back)) :
    w.embed = embed ∧ IsMark w ∧ s = w.inner ++ back := by
  rw [inside?_eq] at h
  split at h
  · cases h
  · next target rest hrun =>
      obtain ⟨rfl, hne, hinside, _⟩ := run?_eq_some_iff.mp hrun
      cases hsubpath : takeSubpath rest with
      | mk subpath rest' =>
          cases hdisplay : takeDisplay rest' with
          | mk display closing =>
              simp only [hsubpath, hdisplay] at h
              obtain ⟨rfl, hvalid⟩ := eq_append_of_takeSubpath hsubpath
              obtain ⟨rfl, hshown⟩ := eq_append_of_takeDisplay hdisplay
              split at h
              · cases h
                exact ⟨rfl, ⟨hne, hinside, hvalid, hshown⟩, by simp [inner]⟩
              · cases h

/-- **What is recognised at the beginning of a text**: a mark as it is written. -/
theorem recognise_eq_some_iff {s back : Text} {w : WikiLink} :
    recognise s = some (w, back) ↔ IsMark w ∧ s = w.written ++ back := by
  constructor
  · intro h
    unfold recognise at h
    split at h
    · obtain ⟨hembed, hmark, rfl⟩ := isMark_of_inside? h
      exact ⟨hmark, by simp [written, hembed]⟩
    · obtain ⟨hembed, hmark, rfl⟩ := isMark_of_inside? h
      exact ⟨hmark, by simp [written, hembed]⟩
    · cases h
  · rintro ⟨hmark, rfl⟩
    have hinner := inside?_inner hmark back
    unfold written
    cases hembed : w.embed with
    | true =>
        rw [hembed] at hinner
        exact hinner
    | false =>
        rw [hembed] at hinner
        exact hinner

/-- A mark begins with one of two signs. -/
theorem exists_written_cons (w : WikiLink) :
    ∃ c rest, w.written = c :: rest ∧ (c = '!' ∨ c = '[') := by
  unfold written
  cases w.embed with
  | true => exact ⟨'!', _, rfl, .inl rfl⟩
  | false => exact ⟨'[', _, rfl, .inr rfl⟩

theorem written_ne_nil (w : WikiLink) : w.written ≠ [] := by simp [written]

theorem consumes_recognise : Consumes recognise := fun _ w _ h =>
  ⟨w.written, w.written_ne_nil, (recognise_eq_some_iff.mp h).2⟩

/-- A text is one mark exactly if it is a mark as it is written. -/
theorem ofText?_eq_some_iff {s : Text} {w : WikiLink} :
    ofText? s = some w ↔ IsMark w ∧ s = w.written := by
  rw [ofText?_eq_some_iff_recognise, recognise_eq_some_iff, List.append_nil]

theorem ofText?_eq_none {c : Char} {rest : Text} (hbang : c ≠ '!') (hbracket : c ≠ '[') :
    ofText? (c :: rest) = none := by
  cases h : ofText? (c :: rest) with
  | none => rfl
  | some w =>
      obtain ⟨d, more, hwritten, hd⟩ := w.exists_written_cons
      have hs := (ofText?_eq_some_iff.mp h).2
      rw [hwritten] at hs
      rcases hd with rfl | rfl
      · exact absurd (List.cons.inj hs).1 hbang
      · exact absurd (List.cons.inj hs).1 hbracket

end WikiLink

/-! ## The links of a text -/

/-- Only links are kept that were there. -/
theorem distinctLinks_subset (links : List Link) : distinctLinks links ⊆ links := by
  refine List.foldlRecOn (motive := (· ⊆ links)) links _ (List.nil_subset _) ?_
  intro kept hkept next hnext
  show (if kept.any next.pointsLike then kept else kept ++ [next]) ⊆ links
  split
  · exact hkept
  · exact List.append_subset.mpr ⟨hkept, List.cons_subset.mpr ⟨hnext, List.nil_subset _⟩⟩

/-- **Each link of a text is that of a mark.** -/
theorem exists_mark_of_mem {s : Text} {l : Link} (h : l ∈ extractLinks s) :
    ∃ w : WikiLink, w.IsMark ∧ l = w.toLink := by
  obtain ⟨f, hf, rfl⟩ := List.mem_map.mp (distinctLinks_subset _ h)
  obtain ⟨_, _, _, _, _, _, _, _, _, hmark⟩ :=
    exists_scansTo_of_mem WikiLink.consumes_recognise hf
  exact ⟨f.value, (WikiLink.recognise_eq_some_iff.mp hmark).1, rfl⟩

/-- **A text that is one mark has one link.** -/
theorem extractLinks_written {w : WikiLink} (h : w.IsMark) : extractLinks w.written = [w.toLink] :=
  extractLinks_of_ofText? (WikiLink.ofText?_eq_some_iff.mpr ⟨h, rfl⟩)

end NoteVault
