import NoteVault.Proofs.Calendar.DurationBounds
import NoteVault.Proofs.Calendar.IsoText
import NoteVault.Proofs.Frontmatter.Literal
import NoteVault.Vault.Load

/-!
# Frontmatter that has no meaning

Reading frontmatter goes through a whole value and fails if one of its parts cannot be read. There
are two such parts: a text that is a duration and too long for one, and a key that is an integer
with too many digits to be written. A text is looked at for a link, for a date and for a duration,
in this order, but no text could be two of them: a duration begins with digits, and behind them
comes a blank, a point or a letter.

A page is loaded if and only if the head of its note has a meaning, where the note and the head can
be read at all. So a single text costs a vault the whole page.

## Main definitions

* `Value.HasMeaning` — nothing in a value prevents it from being read.
* `entriesOf` — the entries in the head of a note.

## Main results

* `Value.ofText_eq_error_iff` — the texts that have no meaning.
* `Value.exists_ofFrontmatter_iff` — the values that have one.
* `exists_loadPage_iff` — the pages that are loaded.
* `Value.reading_succeeds_iff` — all of this, and how long is too long.
-/

namespace NoteVault

open Text

/-! ## Durations are no links and no dates -/

/-- Nothing but a blank, a point or a unit word goes on with a duration behind its first digits. -/
theorem durationParts?_eq_none (digits : Text) {rest : Text} {c : Char}
    (hdigits : ∀ d ∈ digits, isDigit d = true) (hdigit : isDigit c = false)
    (hblank : isBlank c = false) (hpoint : c ≠ '.') (hletter : isUnitLetter c = false) :
    durationParts? (digits ++ c :: rest) = none := by
  have hstart : stripStart (digits ++ c :: rest) = digits ++ c :: rest := by
    refine stripStart_eq_self_of_head? fun d hd => ?_
    cases digits with
    | nil => exact Option.some.inj hd ▸ hblank
    | cons digit digits =>
        exact isBlank_of_isDigit (Option.some.inj hd ▸ hdigits digit List.mem_cons_self)
  have hstop : stripStart (c :: rest) = c :: rest :=
    stripStart_eq_self_of_head? fun d hd => Option.some.inj hd ▸ hblank
  obtain ⟨htake, hdrop⟩ := span_append hdigits (endsAt_cons.mpr hdigit)
  have hword : (c :: rest).takeWhile isUnitLetter = [] :=
    List.takeWhile_cons_of_neg (ne_true_of_eq_false hletter)
  have hpart : takePart? (digits ++ c :: rest) = none := by
    unfold takePart? takeAmount?
    rw [htake, hdrop]
    cases digits with
    | nil => rfl
    | cons digit digits => simp [hstop, hword, hpoint]
  obtain ⟨first, more, hs⟩ := List.exists_cons_of_ne_nil
    (List.append_ne_nil_of_right_ne_nil digits (List.cons_ne_nil c rest))
  rw [hs] at hstart hpart ⊢
  have hparts : takeParts? (first :: more).length (first :: more) = none := by
    rw [List.length_cons, takeParts?, hpart]
    · rfl
    · exact List.cons_ne_nil first more
  unfold durationParts?
  rw [hstart]
  exact hparts

theorem durationParts?_of_ofText? {s : Text} {mark : WikiLink}
    (h : WikiLink.ofText? s = some mark) : durationParts? s = none := by
  obtain ⟨_, rfl⟩ := WikiLink.ofText?_eq_some_iff.mp h
  obtain ⟨c, rest, hwritten, rfl | rfl⟩ := mark.exists_written_cons <;> rw [hwritten]
  · exact durationParts?_eq_none [] (List.forall_mem_nil _) (by decide) (by decide) (by decide)
      (by decide)
  · exact durationParts?_eq_none [] (List.forall_mem_nil _) (by decide) (by decide) (by decide)
      (by decide)

theorem durationParts?_of_readIso? {s : Text} {t : DateTime} (h : readIso? s = some t) :
    durationParts? s = none := by
  obtain ⟨year, rest, rfl, _, hyear⟩ := exists_year_of_readIso? h
  exact durationParts?_eq_none year (fun c hc => isDigit_of_ascii (hyear c hc)) (by decide) (by decide)
    (by decide) (by decide)

theorem IsOverlong.durationParts?_ne_none {s : Text} (h : IsOverlong s) : durationParts? s ≠ none := by
  obtain ⟨parts, _, hparts, _⟩ := h
  rw [hparts]
  exact Option.some_ne_none parts

namespace Value

/-- **The texts that have no meaning** are durations that are too long. -/
theorem ofText_eq_error_iff {s : Text} {e : LiteralError} :
    ofText s = .error e ↔ e = .duration .outOfBounds ∧ IsOverlong (strip s) := by
  unfold ofText
  dsimp only
  rw [onlyLink?_eq]
  split
  · next hlink =>
      obtain ⟨mark, hmark, _⟩ := Option.map_eq_some_iff.mp hlink
      exact iff_of_false nofun fun h => h.2.durationParts?_ne_none (durationParts?_of_ofText? hmark)
  · split
    · next t ht =>
        exact iff_of_false nofun fun h => h.2.durationParts?_ne_none (durationParts?_of_readIso? ht)
    · rw [← readDuration_eq_error_iff (e := .outOfBounds)]
      cases readDuration (strip s) with
      | ok found => cases found <;> exact iff_of_false nofun nofun
      | error error =>
          cases error
          exact ⟨fun h => ⟨(Except.error.inj h).symm, rfl⟩, fun h => h.1 ▸ rfl⟩

/-! ## Values that have a meaning -/

/-- Nothing in a value prevents it from being read. -/
structure HasMeaning (v : Value) : Prop where
  /-- No text in it is a duration that is too long. -/
  texts : ∀ s, StandsIn (.string s) v → ¬ IsOverlong (strip s)
  /-- All keys in it can be written. -/
  keys : ∀ entries, StandsIn (.object entries) v → ∀ e ∈ entries, e.1.isWritable = true

theorem hasMeaning_array_iff {kind : ArrayKind} {items : List Value} :
    HasMeaning (.array kind items) ↔ ∀ v ∈ items, HasMeaning v := by
  constructor
  · exact fun ⟨htexts, hkeys⟩ v hv => ⟨fun s hs => htexts s (.item hv hs),
      fun entries h => hkeys entries (.item hv h)⟩
  · intro h
    constructor
    · intro s hs
      obtain ⟨v, hv, hs⟩ := (standsIn_array_iff.mp hs).resolve_left nofun
      exact (h v hv).texts s hs
    · intro entries hentries
      obtain ⟨v, hv, hentries⟩ := (standsIn_array_iff.mp hentries).resolve_left nofun
      exact (h v hv).keys entries hentries

theorem hasMeaning_object_iff {entries : List (Key × Value)} :
    HasMeaning (.object entries) ↔
      ∀ e ∈ entries, e.1.isWritable = true ∧ HasMeaning e.2 := by
  constructor
  · exact fun ⟨htexts, hkeys⟩ e he => ⟨hkeys entries .self e he,
      fun s hs => htexts s (.entry he hs), fun inner h => hkeys inner (.entry he h)⟩
  · intro h
    constructor
    · intro s hs
      obtain ⟨e, he, hs⟩ := (standsIn_object_iff.mp hs).resolve_left nofun
      exact (h e he).2.texts s hs
    · intro inner hinner
      rcases standsIn_object_iff.mp hinner with hself | ⟨e, he, hinner⟩
      · cases hself
        exact fun e he => (h e he).1
      · exact (h e he).2.keys inner hinner

theorem hasMeaning_string_iff {s : Text} : HasMeaning (.string s) ↔ ¬ IsOverlong (strip s) := by
  constructor
  · exact fun h => h.texts s .self
  · intro h
    constructor
    · intro t ht
      cases (standsIn_leaf_iff rfl).mp ht
      exact h
    · exact fun entries hentries => nomatch (standsIn_leaf_iff rfl).mp hentries

theorem hasMeaning_leaf {v : Value} (hleaf : v.isContainer = false)
    (hstring : v.hasTag .string = false) : HasMeaning v := by
  constructor
  · intro s hs
    rw [← (standsIn_leaf_iff hleaf).mp hs] at hstring
    cases hstring
  · intro entries hentries
    rw [← (standsIn_leaf_iff hleaf).mp hentries] at hleaf
    cases hleaf

/-- **The values that have a meaning** are read, and no others. -/
theorem exists_ofFrontmatter_iff (v : Value) : (∃ w, ofFrontmatter v = .ok w) ↔ HasMeaning v := by
  induction v using nestingInduction with
  | array kind items ih =>
      calc (∃ w, ofFrontmatter (.array kind items) = .ok w)
        _ ↔ ∃ read, List.Forall₂ (fun v w => ofFrontmatter v = .ok w) items read := by
          simp only [ofFrontmatter_array_iff]
          exact ⟨fun ⟨_, read, hread, _⟩ => ⟨read, hread⟩, fun ⟨read, hread⟩ => ⟨_, read, hread, rfl⟩⟩
        _ ↔ ∀ v ∈ items, ∃ w, ofFrontmatter v = .ok w := exists_forall₂_iff
        _ ↔ ∀ v ∈ items, HasMeaning v := forall₂_congr ih
        _ ↔ HasMeaning (.array kind items) := hasMeaning_array_iff.symm
  | object entries ih =>
      calc (∃ w, ofFrontmatter (.object entries) = .ok w)
        _ ↔ ∃ read, List.Forall₂ ReadsAs entries read := by
          simp only [ofFrontmatter_object_iff]
          exact ⟨fun ⟨_, read, hread, _⟩ => ⟨read, hread⟩, fun ⟨read, hread⟩ => ⟨_, read, hread, rfl⟩⟩
        _ ↔ ∀ e ∈ entries, ∃ read, ReadsAs e read := exists_forall₂_iff
        _ ↔ ∀ e ∈ entries, e.1.isWritable = true ∧ HasMeaning e.2 := by
          refine forall₂_congr fun e he => ?_
          rw [← ih e he]
          exact ⟨fun ⟨read, h⟩ => ⟨h.writable, _, h.value⟩,
            fun ⟨hwritable, w, hw⟩ => ⟨_, readsAs_iff.mpr ⟨hwritable, w, hw, rfl⟩⟩⟩
        _ ↔ HasMeaning (.object entries) := hasMeaning_object_iff.symm
  | leaf v hv =>
      cases v with
      | array | object => cases hv
      | string s =>
          rw [hasMeaning_string_iff]
          cases h : ofText s with
          | ok w =>
              refine iff_of_true ⟨w, h⟩ fun hlong => ?_
              rw [ofText_eq_error_iff.mpr ⟨rfl, hlong⟩] at h
              cases h
          | error e =>
              refine iff_of_false ?_ (not_not.mpr (ofText_eq_error_iff.mp h).2)
              rintro ⟨w, hw⟩
              cases h.symm.trans hw
      | _ => exact iff_of_true ⟨_, rfl⟩ (hasMeaning_leaf rfl rfl)

end Value

/-! ## Pages -/

/-- The entries in the head of a note, as it was read from its file. -/
def entriesOf (note : Text) : Except PageError (List (Key × Value)) :=
  headEntries (splitNote (unifyLineEnds note))

theorem exists_readNote_iff {note : Text} {entries : List (Key × Value)}
    (hhead : entriesOf note = .ok entries) :
    (∃ found, readNote note = .ok found) ↔ ∃ w, Value.ofFrontmatter (.object entries) = .ok w := by
  unfold entriesOf at hhead
  unfold readNote
  dsimp only
  rw [hhead]
  show (∃ found, ((Value.ofFrontmatter (.object entries)).mapError PageError.literal).bind _ =
    .ok found) ↔ _
  cases Value.ofFrontmatter (.object entries) with
  | error e => exact iff_of_false nofun nofun
  | ok w => cases w <;> exact iff_of_true ⟨_, rfl⟩ ⟨_, rfl⟩

/-- **The pages that are loaded.** Where a note and its head can be read, it is the meaning of the
head that decides. -/
theorem exists_loadPage_iff {t : FileTree} {root names : Location} {note : Text}
    {entries : List (Key × Value)} (hnote : t.readText (root ++ names) = .ok note)
    (hhead : entriesOf note = .ok entries) :
    (∃ page, loadPage t root names = .ok page) ↔ Value.HasMeaning (.object entries) := by
  rw [← Value.exists_ofFrontmatter_iff, ← exists_readNote_iff hhead]
  unfold loadPage
  rw [hnote]
  show (∃ page, (readNote note).bind _ = .ok page) ↔ _
  cases readNote note with
  | error e => exact iff_of_false nofun nofun
  | ok found => exact iff_of_true ⟨_, rfl⟩ ⟨_, rfl⟩

/-! ## What can be read -/

namespace Value

/-- **What frontmatter can be read.** A value is read, and then as one that means what it says, if
and only if no text in it is a duration that is too long and all its keys can be written; and where
a note and its head can be read, its page is loaded if and only if this holds of the head. Of the
texts that consist of whole amounts with known units, those are too long whose total is a thousand
million days or more, as long as the amounts of each unit add up to less than `2 ^ 53`; and,
however large its amounts, a text is too long if one of them is by itself. -/
theorem reading_succeeds_iff (v : Value) :
    ((∃ w, ofFrontmatter v = .ok w ∧ IsLiteral w) ↔ HasMeaning v) ∧
      (∀ (t : FileTree) (root names : Location) (note : Text) (entries : List (Key × Value)),
        v = .object entries → t.readText (root ++ names) = .ok note →
          entriesOf note = .ok entries →
            ((∃ page, loadPage t root names = .ok page) ↔ HasMeaning v)) ∧
      ∀ (qs : List NamedPart) (s : Text), qs ≠ [] →
        IsDurationText (qs.map NamedPart.toDurationPart) s →
          ((∀ unit, amountIn qs unit < exactBound) →
            (IsOverlong s ↔ overlongMicros ≤ totalOf qs)) ∧
          ∀ q ∈ qs, overlongMicros ≤ q.amount * q.unit.micros → IsOverlong s := by
  refine ⟨?_, ?_, fun qs s hne hs =>
    ⟨isOverlong_iff_of_exact hs hne, fun q hq => isOverlong_of_part hs hq⟩⟩
  · rw [← exists_ofFrontmatter_iff]
    exact ⟨fun ⟨w, hw, _⟩ => ⟨w, hw⟩, fun ⟨w, hw⟩ => ⟨w, hw, isLiteral_of_ofFrontmatter hw⟩⟩
  · rintro t root names note entries rfl hnote hhead
    exact exists_loadPage_iff hnote hhead

/-- A thousand million days, written `1000000000 days`. -/
def longDays : NamedPart :=
  ⟨⟨"1000000000", [' '], "days", by decide, List.all_eq_true.mp rfl, isBlank_of_mem_space, by decide,
    List.all_eq_true.mp rfl⟩, .day, by decide⟩

/-- A note with a text that is too long for a duration. -/
def longNote : Text := "---\nage: 1000000000 days\n---\n"

/-- What its head says. -/
def longEntries : List (Key × Value) := [(.string "age", .string "1000000000 days")]

/-- A file with this note. -/
def longTree : FileTree where
  entries := [([("n.md" : Text)], .file (String.ofList longNote).toUTF8 0)]

theorem entriesOf_longNote : entriesOf longNote = .ok longEntries := by
  -- keys and texts can be compared, values in general cannot
  have hplain : (entriesOf longNote).toOption.map (List.map fun e => (e.1, e.2.toKey?)) =
      some (longEntries.map fun e => (e.1, e.2.toKey?)) := by
    decide +kernel
  cases h : entriesOf longNote with
  | error e =>
      rw [h] at hplain
      cases hplain
  | ok entries =>
      rw [h] at hplain
      obtain ⟨⟨k, v⟩, rfl, hentry⟩ := List.map_eq_singleton_iff.mp (Option.some.inj hplain)
      obtain ⟨rfl, hvalue⟩ := Prod.mk.inj hentry
      cases v <;> cases hvalue
      rfl

theorem isDurationText_longDays : IsDurationText [longDays.toDurationPart] "1000000000 days" :=
  .cons _ (.blanks (List.forall_mem_nil _)) .nil

/-- A page that is not loaded, and a text that is too long in two ways. -/
theorem reading_succeeds_iff_long :
    ((∃ page, loadPage longTree [] [("n.md" : Text)] = .ok page) ↔
      HasMeaning (.object longEntries)) ∧
    (IsOverlong "1000000000 days" ↔ overlongMicros ≤ totalOf [longDays]) ∧
    IsOverlong "1000000000 days" := by
  obtain ⟨_, hpages, htexts⟩ := reading_succeeds_iff (.object longEntries)
  have hnote : longTree.readText ([] ++ [("n.md" : Text)]) = .ok longNote := by decide +kernel
  obtain ⟨hexact, hpart⟩ := htexts [longDays] _ (List.cons_ne_nil _ _) isDurationText_longDays
  refine ⟨hpages _ _ _ _ _ rfl hnote entriesOf_longNote, hexact fun unit => ?_,
    hpart longDays List.mem_cons_self (by decide)⟩
  cases unit <;> decide

/-- **Not all frontmatter can be read**: neither a text with a large amount, and with it the page of
its note, nor a key with too many digits. -/
theorem reading_fails_on_large_numbers :
    ofFrontmatter (.string "1000000000 days") = .error (.duration .outOfBounds) ∧
      (¬ ∃ page, loadPage longTree [] [("n.md" : Text)] = .ok page) ∧
      (¬ ∃ w, ofFrontmatter (.object [(.number (.int (Nat.pow 10 4300)), .null)]) = .ok w) ∧
      ¬ ∀ v : Value, ∃ w, ofFrontmatter v = .ok w := by
  have hoverlong : IsOverlong (strip "1000000000 days") :=
    (readDuration_eq_error_iff (e := .outOfBounds)).mp (by decide +kernel)
  have hlong : ofFrontmatter (.string "1000000000 days") = .error (.duration .outOfBounds) := by
    rw [ofFrontmatter, ofText_eq_error_iff]
    exact ⟨rfl, hoverlong⟩
  refine ⟨hlong, ?_, ?_, fun h => ?_⟩
  · rw [exists_loadPage_iff (by decide +kernel) entriesOf_longNote]
    exact fun h => h.texts "1000000000 days" (.entry List.mem_cons_self .self) hoverlong
  · rw [exists_ofFrontmatter_iff]
    exact fun h => absurd (h.keys _ .self _ List.mem_cons_self) (by decide +kernel)
  · obtain ⟨w, hw⟩ := h (.string "1000000000 days")
    cases hlong.symm.trans hw

end Value
end NoteVault
