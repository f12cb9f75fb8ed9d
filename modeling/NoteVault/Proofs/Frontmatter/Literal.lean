import Mathlib.Data.List.Forall2
import NoteVault.Proofs.Link.Markdown
import NoteVault.Proofs.Link.Pattern
import NoteVault.Proofs.Value.Lookup
import NoteVault.Proofs.Value.Shape
import NoteVault.Proofs.Value.Tree

/-!
# What frontmatter is read as

Reading frontmatter goes down the arrays and objects of a value and looks at each text for itself.
It is described here by relations between the parts before and after, so that what holds of a whole
value follows from its parts, by induction on the nesting.

What comes out means what it says. Its objects have texts for keys, each once, since entries that
are put under the same text become one; its arrays are lists; and none of its texts means more. Such
a value is read as itself, so reading it again changes nothing.

A text is read as a link if it is a link mark as a whole. It has no other mark in it then, so the
links of the text are this one, with the parts that the mark has.

## Main definitions

* `Value.IsPlain` — a text that means no more than it says.
* `Value.IsLiteral` — a value that means what it says.

## Main results

* `Value.ofFrontmatter_array_iff`, `Value.ofFrontmatter_object_iff` — reading goes down a value.
* `Value.isLiteral_of_ofFrontmatter` — what comes out means what it says.
* `Value.IsLiteral.ofFrontmatter_eq` — it is read as itself.
* `Value.reading_laws` — reading twice is reading once, and a link is read as in running text.
-/

namespace NoteVault

open Text

/-- Entries under texts are put like all entries. -/
theorem Entries.ofList_eq_putAll {α : Type} {entries : List (Key × α)}
    (h : ∀ e ∈ entries, ∃ name, e.1 = .string name) : ofList entries = putAll entries := by
  refine List.foldl_ext _ _ _ fun kept e he => ?_
  obtain ⟨k, value⟩ := e
  obtain ⟨name, rfl⟩ := h _ he
  refine eq_putUnder (put (.string name) value) rfl (fun k v rest => ?_) kept
  rw [put]
  by_cases hk : k = .string name
  · rw [if_pos (Key.same_string_iff.mpr hk), if_pos hk, hk]
  · rw [if_neg (mt Key.same_string_iff.mp hk), if_neg hk]

theorem exists_of_forall₂_of_mem {α β : Type} {R : α → β → Prop} {xs : List α} {ys : List β}
    (h : List.Forall₂ R xs ys) : ∀ y ∈ ys, ∃ x ∈ xs, R x y := by
  induction h with
  | nil => exact fun _ hy => absurd hy List.not_mem_nil
  | cons hxy _ ih =>
      intro z hz
      rcases List.mem_cons.mp hz with rfl | hz
      · exact ⟨_, List.mem_cons_self, hxy⟩
      · obtain ⟨x, hx, hxz⟩ := ih z hz
        exact ⟨x, List.mem_cons_of_mem _ hx, hxz⟩

theorem exists_forall₂_iff {α β : Type} {R : α → β → Prop} {xs : List α} :
    (∃ ys, List.Forall₂ R xs ys) ↔ ∀ x ∈ xs, ∃ y, R x y := by
  induction xs with
  | nil => simp
  | cons x xs ih =>
      rw [List.forall_mem_cons, ← ih]
      constructor
      · rintro ⟨ys, h⟩
        obtain ⟨y, ys, hxy, hxs, _⟩ := List.forall₂_cons_left_iff.mp h
        exact ⟨⟨y, hxy⟩, ys, hxs⟩
      · rintro ⟨⟨y, hxy⟩, ys, hxs⟩
        exact ⟨y :: ys, .cons hxy hxs⟩

namespace Value

/-! ## Reading goes down a value -/

/-- An entry is read as another one: its key as the text of the key, its value for itself. -/
structure ReadsAs (e read : Key × Value) : Prop where
  /-- The key can be written. -/
  writable : e.1.isWritable = true
  /-- It becomes a text. -/
  key : read.1 = .string e.1.text
  /-- The value is read. -/
  value : ofFrontmatter e.2 = .ok read.2

theorem readsAs_iff {k : Key} {v : Value} {read : Key × Value} :
    ReadsAs (k, v) read ↔
      k.isWritable = true ∧ ∃ w, ofFrontmatter v = .ok w ∧ read = (.string k.text, w) := by
  constructor
  · rintro ⟨hwritable, hkey, hvalue⟩
    exact ⟨hwritable, read.2, hvalue, Prod.ext hkey rfl⟩
  · rintro ⟨hwritable, w, hvalue, rfl⟩
    exact ⟨hwritable, rfl, hvalue⟩

theorem ofItems_iff {items read : List Value} :
    ofItems items = .ok read ↔ List.Forall₂ (fun v w => ofFrontmatter v = .ok w) items read := by
  induction items generalizing read with
  | nil => simp [ofItems, eq_comm]
  | cons v rest ih =>
      rw [ofItems, List.forall₂_cons_left_iff]
      simp only [← ih]
      cases ofFrontmatter v with
      | error => simp [Bind.bind, Except.bind]
      | ok w =>
          cases ofItems rest <;>
            simp [Bind.bind, Except.bind, Pure.pure, Except.pure, eq_comm]

theorem ofEntries_iff {entries read : List (Key × Value)} :
    ofEntries entries = .ok read ↔ List.Forall₂ ReadsAs entries read := by
  induction entries generalizing read with
  | nil => simp [ofEntries, eq_comm]
  | cons e rest ih =>
      obtain ⟨k, v⟩ := e
      rw [ofEntries, List.forall₂_cons_left_iff]
      simp only [← ih, readsAs_iff]
      cases k.isWritable with
      | false => simp
      | true =>
          cases ofFrontmatter v with
          | error => simp [Bind.bind, Except.bind]
          | ok w =>
              cases ofEntries rest <;>
                simp [Bind.bind, Except.bind, Pure.pure, Except.pure, eq_comm]

/-- **An array is read as the list of what its items are read as.** -/
theorem ofFrontmatter_array_iff {kind : ArrayKind} {items : List Value} {w : Value} :
    ofFrontmatter (.array kind items) = .ok w ↔
      ∃ read, List.Forall₂ (fun v w => ofFrontmatter v = .ok w) items read ∧ w = .list read := by
  rw [ofFrontmatter]
  simp only [← ofItems_iff]
  cases ofItems items <;> simp [Bind.bind, Except.bind, Pure.pure, Except.pure, eq_comm]

/-- **An object is read as what its entries are read as**, put one after the other. -/
theorem ofFrontmatter_object_iff {entries : List (Key × Value)} {w : Value} :
    ofFrontmatter (.object entries) = .ok w ↔
      ∃ read, List.Forall₂ ReadsAs entries read ∧ w = .object (Entries.ofList read) := by
  rw [ofFrontmatter]
  simp only [← ofEntries_iff]
  cases ofEntries entries <;> simp [Bind.bind, Except.bind, Pure.pure, Except.pure, eq_comm]

/-! ## Texts -/

/-- A text means no more than it says. -/
structure IsPlain (s : Text) : Prop where
  /-- It is no link. -/
  link : WikiLink.ofText? (strip s) = none
  /-- It is no date. -/
  date : readIso? (strip s) = none
  /-- It is no duration. -/
  duration : readDuration (strip s) = .ok none

theorem IsPlain.ofText_eq {s : Text} (h : IsPlain s) : ofText s = .ok (.string s) := by
  simp [ofText, onlyLink?_eq, h.link, h.date, h.duration, Except.mapError, Bind.bind, Except.bind,
    Pure.pure, Except.pure]

theorem ofText_of_mark {s : Text} {mark : WikiLink} (h : WikiLink.ofText? (strip s) = some mark) :
    ofText s = .ok (.link mark.toLink) := by
  simp only [ofText, onlyLink?_eq, h, Option.map_some]

/-- What a text can be read as. -/
inductive TextReading (s : Text) : Value → Prop where
  /-- The link of a mark. -/
  | link {mark : WikiLink} (h : WikiLink.ofText? (strip s) = some mark) :
    TextReading s (.link mark.toLink)
  /-- A point in time. -/
  | date (t : DateTime) : TextReading s (.date (.time t))
  /-- A length of time. -/
  | duration (d : Duration) : TextReading s (.duration d)
  /-- Itself. -/
  | plain (h : IsPlain s) : TextReading s (.string s)

theorem textReading_of_ofText {s : Text} {w : Value} (h : ofText s = .ok w) : TextReading s w := by
  unfold ofText at h
  simp only [onlyLink?_eq] at h
  cases hmark : WikiLink.ofText? (strip s) with
  | some mark =>
      rw [hmark] at h
      cases h
      exact .link hmark
  | none =>
      rw [hmark] at h
      simp only [Option.map_none] at h
      split at h
      · next t ht =>
          cases h
          exact .date t
      · next ht =>
          cases hd : readDuration (strip s) with
          | error e =>
              rw [hd] at h
              cases h
          | ok found =>
              rw [hd] at h
              cases found with
              | none =>
                  cases h
                  exact .plain ⟨hmark, ht, hd⟩
              | some d =>
                  cases h
                  exact .duration d

/-! ## Values that mean what they say -/

/-- A value means what it says. -/
inductive IsLiteral : Value → Prop where
  /-- A list of such values. -/
  | list {items : List Value} (hitems : ∀ v ∈ items, IsLiteral v) : IsLiteral (.list items)
  /-- An object with such values under different texts. -/
  | object {entries : List (Key × Value)} (hkeys : (entries.map (·.1)).Nodup)
    (hnames : ∀ e ∈ entries, ∃ name, e.1 = .string name) (hvalues : ∀ e ∈ entries, IsLiteral e.2) :
    IsLiteral (.object entries)
  /-- A text that means no more. -/
  | string {s : Text} (h : IsPlain s) : IsLiteral (.string s)
  /-- Anything else without parts. -/
  | leaf {v : Value} (hleaf : v.isContainer = false) (hstring : v.hasTag .string = false) :
    IsLiteral v

/-- **What comes out means what it says.** -/
theorem isLiteral_of_ofFrontmatter {v w : Value} (h : ofFrontmatter v = .ok w) : IsLiteral w := by
  induction v using nestingInduction generalizing w with
  | array kind items ih =>
      obtain ⟨read, hread, rfl⟩ := ofFrontmatter_array_iff.mp h
      refine .list fun u hu => ?_
      obtain ⟨v, hv, hvu⟩ := exists_of_forall₂_of_mem hread u hu
      exact ih v hv hvu
  | object entries ih =>
      obtain ⟨read, hread, rfl⟩ := ofFrontmatter_object_iff.mp h
      have hnames : ∀ e ∈ read, ∃ name, e.1 = .string name := by
        intro e he
        obtain ⟨d, _, hd⟩ := exists_of_forall₂_of_mem hread e he
        exact ⟨_, hd.key⟩
      rw [Entries.ofList_eq_putAll hnames]
      refine .object (nodup_putAll read) (fun e he => hnames e (putAll_subset read he)) ?_
      intro e he
      obtain ⟨d, hd, hde⟩ := exists_of_forall₂_of_mem hread e (putAll_subset read he)
      exact ih d hd hde.value
  | leaf v hv =>
      cases v with
      | array | object => cases hv
      | string s =>
          cases textReading_of_ofText h with
          | plain hs => exact .string hs
          | _ => exact .leaf rfl rfl
      | _ =>
          cases h
          exact .leaf rfl rfl

/-- **A value that means what it says is read as itself.** -/
theorem IsLiteral.ofFrontmatter_eq {w : Value} (h : IsLiteral w) : ofFrontmatter w = .ok w := by
  induction h with
  | list _ ih => exact ofFrontmatter_array_iff.mpr ⟨_, List.forall₂_same.mpr ih, rfl⟩
  | @object entries hkeys hnames _ ih =>
      refine ofFrontmatter_object_iff.mpr ⟨entries, List.forall₂_same.mpr fun e he => ?_, ?_⟩
      · obtain ⟨k, v⟩ := e
        obtain ⟨name, rfl⟩ := hnames _ he
        exact ⟨rfl, rfl, ih _ he⟩
      · rw [Entries.ofList_eq_putAll hnames, putAll_eq_self hkeys]
  | string hs => exact hs.ofText_eq
  | @leaf v hleaf hstring =>
      cases v with
      | array | object => cases hleaf
      | string => cases hstring
      | _ => rfl

/-! ## Links -/

/-- **Frontmatter that is read twice, and the links in it.** What a value is read as means what it
says, and is read as itself. A text that, without the blanks around it, matches the pattern of link
marks as a whole has one link, with the parts of that match, and is read as this link; no other text
is read as a link. Both the marks of a running text and the text that is one mark are those that are
found by trying the pattern. -/
theorem reading_laws :
    (∀ v w : Value, ofFrontmatter v = .ok w → IsLiteral w ∧ ofFrontmatter w = .ok w) ∧
      (∀ (s : Text) (mark : WikiLink), WikiLink.fullMatch (strip s) = some mark →
        extractLinks (strip s) = [mark.toLink] ∧
          ofFrontmatter (.string s) = .ok (.link mark.toLink) ∧
          mark.toLink =
            ⟨strip mark.target, placeOf mark.subpath, mark.display.bind filled, mark.embed⟩) ∧
      (∀ (s : Text) (l : Link), ofFrontmatter (.string s) = .ok (.link l) →
        ∃ mark, WikiLink.fullMatch (strip s) = some mark ∧ l = mark.toLink) ∧
      ∀ s : Text, WikiLink.recognise s = (WikiLink.matchesOf s).head? ∧
        WikiLink.ofText? s = WikiLink.fullMatch s := by
  refine ⟨fun v w h => ?_, fun s mark h => ?_, fun s l h => ?_,
    fun s => ⟨WikiLink.recognise_eq_head? s, WikiLink.ofText?_eq_fullMatch s⟩⟩
  · have hw := isLiteral_of_ofFrontmatter h
    exact ⟨hw, hw.ofFrontmatter_eq⟩
  · rw [← WikiLink.ofText?_eq_fullMatch] at h
    exact ⟨extractLinks_of_ofText? h, ofText_of_mark h, mark.toLink_eq⟩
  · rw [← WikiLink.ofText?_eq_fullMatch]
    cases textReading_of_ofText h with
    | link hmark => exact ⟨_, hmark, rfl⟩

/-- A link to a block whose name begins with the sign of a block. -/
def caretMark : WikiLink := ⟨true, " a", some (true, "^c "), some " "⟩

/-- Two keys with the same text, and a link in an array of fixed length. -/
def mixedNote : Value :=
  .object [(.number (.int 1), .string "x"),
    (.null, .array .tuple [.string " ![[ a#^^c | ]]\n", .string "x"]), (.string "1", .string "x")]

/-- What it is read as. -/
def mixedLiteral : Value :=
  .object [(.string "1", .string "x"),
    (.string "None", .list [.link ⟨"a", .block "^c", none, true⟩, .string "x"])]

theorem reading_laws_mixed :
    ofFrontmatter mixedNote = .ok mixedLiteral ∧ IsLiteral mixedLiteral ∧
      ofFrontmatter mixedLiteral = .ok mixedLiteral ∧
      WikiLink.fullMatch (strip " ![[ a#^^c | ]]\n") = some caretMark ∧
      extractLinks (strip " ![[ a#^^c | ]]\n") = [⟨"a", .block "^c", none, true⟩] ∧
      ofFrontmatter (.string " ![[ a#^^c | ]]\n") = .ok (.link ⟨"a", .block "^c", none, true⟩) ∧
      ∃ mark, WikiLink.fullMatch (strip " ![[ a#^^c | ]]\n") = some mark ∧
        ⟨"a", .block "^c", none, true⟩ = mark.toLink := by
  have hmatch : WikiLink.fullMatch (strip " ![[ a#^^c | ]]\n") = some caretMark := by
    decide +kernel
  have hlink : caretMark.toLink = ⟨"a", .block "^c", none, true⟩ := by decide +kernel
  have hlinks := reading_laws.2.1 _ _ hmatch
  rw [hlink] at hlinks
  have hplain : IsPlain "x" := ⟨by decide +kernel, by decide +kernel, by decide +kernel⟩
  have htext : ofFrontmatter (.string "x") = .ok (.string "x") := hplain.ofText_eq
  have hitems : ofFrontmatter (.array .tuple [.string " ![[ a#^^c | ]]\n", .string "x"]) =
      .ok (.list [.link ⟨"a", .block "^c", none, true⟩, .string "x"]) :=
    ofFrontmatter_array_iff.mpr ⟨_, .cons hlinks.2.1 (.cons htext .nil), rfl⟩
  have hread : ofFrontmatter mixedNote = .ok mixedLiteral :=
    ofFrontmatter_object_iff.mpr ⟨_, .cons (readsAs_iff.mpr ⟨by decide +kernel, _, htext, rfl⟩)
      (.cons (readsAs_iff.mpr ⟨rfl, _, hitems, rfl⟩)
        (.cons (readsAs_iff.mpr ⟨rfl, _, htext, rfl⟩) .nil)), by rfl⟩
  exact ⟨hread, (reading_laws.1 _ _ hread).1, (reading_laws.1 _ _ hread).2, hmatch, hlinks.1,
    hlinks.2.1, reading_laws.2.2.1 _ _ hlinks.2.1⟩

end Value
end NoteVault
