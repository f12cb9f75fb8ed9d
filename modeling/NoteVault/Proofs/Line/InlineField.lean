import NoteVault.Line.InlineField
import NoteVault.Proofs.Text.Scan
import NoteVault.Proofs.Text.Span
import NoteVault.Proofs.Text.Strip

/-!
# Fields in a text put together of parts

A bracket begins a field when characters of a key and two colons stand behind it, and the
field is there when its closing bracket follows. Text put behind another one can therefore
make a field out of a bracket of the first only if that bracket begins a field and was not
closed. When no bracket is of that kind, the fields of the whole are those of the parts, and
setting a field changes the one place where it stands.

## Main results

* `inside?_eq_some_iff` — the field behind a bracket.
* `inside?_append` — a field is the same with and without text behind it.
* `recognise_behind` — a field is read whatever stands behind it.
* `recognise_written` — a field is read back as it was written.
-/

namespace NoteVault

open Text

namespace InlineField

/-! ## The beginning of a field -/

/-- Whether a text begins with a key and two colons, and what stands behind them. -/
def Opening (s key rest : Text) : Prop :=
  s = key ++ ':' :: ':' :: rest ∧ key ≠ [] ∧ ∀ c ∈ key, inKey c = true

/-- Whether a bracket in front of a text begins a field. -/
def Opens (s : Text) : Prop := ∃ key rest, Opening s key rest

theorem inKey_eq_false_iff {c : Char} :
    inKey c = false ↔ c = '[' ∨ c = ']' ∨ c = '(' ∨ c = ')' ∨ c = ':' := by
  simp only [inKey, Bool.not_eq_eq_eq_not, Bool.not_false, Bool.or_eq_true, decide_eq_true_eq,
    or_assoc]

theorem inKey_of_isBlank {c : Char} (h : isBlank c = true) : inKey c = true := by
  by_contra hkey
  rcases inKey_eq_false_iff.mp (eq_false_of_ne_true hkey) with rfl | rfl | rfl | rfl | rfl <;>
    exact absurd h (by decide)

theorem not_mem_of_inKey {s : Text} {c : Char} (h : ∀ d ∈ s, inKey d = true)
    (hc : inKey c = false) : c ∉ s := by
  intro hmem
  rw [h c hmem] at hc
  cases hc

theorem inKey_of_mem_blank : ∀ c ∈ [' '], inKey c = true := by
  intro c hc
  rw [List.mem_singleton.mp hc]
  rfl

theorem Opening.span {s key rest : Text} (h : Opening s key rest) :
    s.takeWhile inKey = key ∧ s.dropWhile inKey = ':' :: ':' :: rest := by
  obtain ⟨rfl, _, hkey⟩ := h
  exact span_append hkey (endsAt_cons.mpr rfl)

theorem Opening.append {s key rest : Text} (h : Opening s key rest) (back : Text) :
    Opening (s ++ back) key (rest ++ back) := by
  obtain ⟨rfl, hne, hkey⟩ := h
  exact ⟨by simp, hne, hkey⟩

theorem Opens.append {s : Text} (h : Opens s) (back : Text) : Opens (s ++ back) := by
  obtain ⟨key, rest, h⟩ := h
  exact ⟨key, rest ++ back, h.append back⟩

/-- A field that two texts open together is opened by the first, or the first ends before its
second colon. -/
theorem Opening.of_append {s back key rest : Text} (h : Opening (s ++ back) key rest) :
    (∃ mid, rest = mid ++ back ∧ Opening s key mid) ∨
      ∃ mid, key ++ [':', ':'] = s ++ mid ∧ back = mid ++ rest := by
  obtain ⟨heq, hne, hkey⟩ := h
  have hsplit : s ++ back = (key ++ [':', ':']) ++ rest := by
    rw [heq]
    simp
  rcases List.append_eq_append_iff.mp hsplit with h | ⟨mid, hs, hrest⟩
  · exact Or.inr h
  · refine Or.inl ⟨mid, hrest, ?_, hne, hkey⟩
    rw [hs]
    simp

/-- Two texts open a field together if the first does, or if it can stand in a key and the
second opens one. -/
theorem Opens.of_append {s back : Text} (h : Opens (s ++ back)) (hback : back.head? ≠ some ':') :
    Opens s ∨ (∀ c ∈ s, inKey c = true) ∧ Opens back := by
  obtain ⟨key, rest, h⟩ := h
  have hne := h.2.1
  have hkey := h.2.2
  rcases h.of_append with ⟨mid, _, hs⟩ | ⟨mid, hmid, hrest⟩
  · exact Or.inl ⟨key, mid, hs⟩
  · rcases List.append_eq_append_iff.mp hmid with ⟨colons, hs, hcolons⟩ | ⟨more, hkeyEq, hmore⟩
    · -- the second text begins with what is left of the two colons
      cases mid with
      | nil => exact Or.inl ⟨key, [], by rw [← List.append_nil s, ← hmid], hne, hkey⟩
      | cons c mid =>
          have hc : c = ':' := by
            have hmem : c ∈ [':', ':'] := hcolons ▸ List.mem_append_right _ List.mem_cons_self
            simpa using hmem
          exact absurd (by rw [hrest, hc]; rfl) hback
    · refine Or.inr
        ⟨fun c hc => hkey c (hkeyEq ▸ List.mem_append_left _ hc), more, rest, ?_, ?_, ?_⟩
      · rw [hrest, hmore]
        simp
      · rintro rfl
        exact hback (by rw [hrest, hmore]; rfl)
      · exact fun c hc => hkey c (hkeyEq ▸ List.mem_append_right _ hc)

/-- Blanks put between two texts can only become part of the key. -/
theorem Opens.insert_inKey {s blanks back : Text} (h : Opens (s ++ back))
    (hblanks : ∀ c ∈ blanks, inKey c = true) (hback : back.head? ≠ some ':') :
    Opens (s ++ blanks ++ back) := by
  rcases h.of_append hback with hs | ⟨hinKey, key, rest, rfl, hne, hkey⟩
  · exact (hs.append blanks).append back
  · refine ⟨s ++ blanks ++ key, rest, by simp, by simp [hne], fun c hc => ?_⟩
    simp only [List.mem_append] at hc
    rcases hc with (hc | hc) | hc
    · exact hinKey c hc
    · exact hblanks c hc
    · exact hkey c hc

/-- A bracket or nothing behind a text does not make it open a field. -/
theorem Opens.of_append_bracket {s back : Text} (h : Opens (s ++ back))
    (hback : ∀ c, back.head? = some c → inKey c = false ∧ c ≠ ':') : Opens s := by
  rcases h.of_append (fun hhead => (hback ':' hhead).2 rfl) with
    hs | ⟨_, key, rest, hback', hne, hkey⟩
  · exact hs
  · obtain ⟨c, key, rfl⟩ := List.exists_cons_of_ne_nil hne
    have hc : inKey c = false := (hback c (by rw [hback']; rfl)).1
    rw [hkey c List.mem_cons_self] at hc
    cases hc

/-- A blank behind a text does not make it open a field. -/
theorem Opens.of_append_blank {s : Text} (h : Opens (s ++ [' '])) : Opens s := by
  rcases h.of_append (by decide) with hs | ⟨_, key, rest, hblank, _, _⟩
  · exact hs
  · have hlength := congrArg List.length hblank
    simp only [List.length_append, List.length_cons, List.length_nil] at hlength
    omega

/-! ## A field behind its bracket -/

variable {wrapping closing : Char}

theorem inside?_of_mem {s key value after : Text} (h : Opening s key (value ++ closing :: after))
    (hvalue : closing ∉ value) :
    inside? wrapping closing s = some (⟨strip key, strip value, wrapping⟩, after) := by
  obtain ⟨htake, hdrop⟩ := h.span
  have hall : ∀ c ∈ value, (c != closing) = true := fun c hc =>
    bne_iff_ne.mpr fun heq => hvalue (heq ▸ hc)
  have hends : EndsAt (· != closing) (closing :: after) := endsAt_cons.mpr (bne_self_eq_false closing)
  obtain ⟨htakeValue, hdropValue⟩ := span_append hall hends
  obtain ⟨c, key, rfl⟩ := List.exists_cons_of_ne_nil h.2.1
  unfold inside?
  rw [htake, hdrop]
  simp only [hdropValue, htakeValue]

theorem inside?_of_not_mem {s key rest : Text} (h : Opening s key rest) (hrest : closing ∉ rest) :
    inside? wrapping closing s = none := by
  obtain ⟨htake, hdrop⟩ := h.span
  have hdropRest : rest.dropWhile (· != closing) = [] :=
    List.dropWhile_eq_nil_iff.mpr fun c hc => bne_iff_ne.mpr fun heq => hrest (heq ▸ hc)
  obtain ⟨c, key, rfl⟩ := List.exists_cons_of_ne_nil h.2.1
  unfold inside?
  rw [htake, hdrop]
  simp only [hdropRest]

theorem inside?_of_not_opens {s : Text} (h : ¬ Opens s) : inside? wrapping closing s = none := by
  unfold inside?
  split
  · rfl
  · next key rest hdrop hne =>
      refine absurd ⟨s.takeWhile inKey, rest, ?_, hne, fun c => List.mem_takeWhile_imp⟩ h
      rw [← hdrop, List.takeWhile_append_dropWhile]
  · rfl

/-- **The field behind a bracket.** -/
theorem inside?_eq_some_iff {s after : Text} {f : InlineField} :
    inside? wrapping closing s = some (f, after) ↔
      ∃ key value, Opening s key (value ++ closing :: after) ∧ closing ∉ value ∧
        f = ⟨strip key, strip value, wrapping⟩ := by
  constructor
  · intro h
    by_cases hopens : Opens s
    · obtain ⟨key, rest, hopening⟩ := hopens
      by_cases hmem : closing ∈ rest
      · obtain ⟨value, back, rfl, hvalue⟩ := List.eq_append_cons_of_mem hmem
        rw [inside?_of_mem hopening hvalue] at h
        obtain ⟨rfl, rfl⟩ := Prod.mk.inj (Option.some.inj h)
        exact ⟨key, value, hopening, hvalue, rfl⟩
      · rw [inside?_of_not_mem hopening hmem] at h
        cases h
    · rw [inside?_of_not_opens hopens] at h
      cases h
  · rintro ⟨key, value, hopening, hvalue, rfl⟩
    exact inside?_of_mem hopening hvalue

theorem inside?_eq_none {s : Text} (h : closing ∉ s) : inside? wrapping closing s = none := by
  by_cases hopens : Opens s
  · obtain ⟨key, rest, hopening⟩ := hopens
    refine inside?_of_not_mem hopening fun hrest => h ?_
    rw [hopening.1]
    simp [hrest]
  · exact inside?_of_not_opens hopens

/-- A bracket that is closed in front of some text begins its field in front of that text. -/
theorem Opening.value_of_mem {s back key rest : Text} (hinKey : inKey closing = false)
    (hcolon : closing ≠ ':') (h : Opening (s ++ back) key rest) (hmem : closing ∈ s) :
    ∃ value after, Opening s key (value ++ closing :: after) ∧ closing ∉ value := by
  have hnotKey : closing ∉ key := not_mem_of_inKey h.2.2 hinKey
  rcases h.of_append with ⟨mid, rfl, hs⟩ | ⟨mid, hmid, _⟩
  · have hmid : closing ∈ mid := by
      rw [hs.1] at hmem
      simpa [hnotKey, hcolon] using hmem
    obtain ⟨value, after, rfl, hvalue⟩ := List.eq_append_cons_of_mem hmid
    exact ⟨value, after, hs, hvalue⟩
  · have hshort : closing ∈ key ++ [':', ':'] := hmid ▸ List.mem_append_left _ hmem
    exact absurd hshort (by simp [hnotKey, hcolon])

/-- **A field is the same with and without text behind it**, unless that text closes it. -/
theorem inside?_append {s back : Text} (hinKey : inKey closing = false) (hcolon : closing ≠ ':')
    (h : Opens (s ++ back) → closing ∈ s ∨ closing ∉ back) :
    inside? wrapping closing (s ++ back) =
      (inside? wrapping closing s).map fun found => (found.1, found.2 ++ back) := by
  by_cases hopens : Opens (s ++ back)
  · by_cases hmem : closing ∈ s
    · obtain ⟨key, rest, hopening⟩ := hopens
      obtain ⟨value, after, hs, hvalue⟩ := hopening.value_of_mem hinKey hcolon hmem
      have hall : Opening (s ++ back) key (value ++ closing :: (after ++ back)) := by
        simpa using hs.append back
      rw [inside?_of_mem hs hvalue, inside?_of_mem hall hvalue]
      rfl
    · have hback := (h hopens).resolve_left hmem
      have hall : closing ∉ s ++ back := by simp [hmem, hback]
      rw [inside?_eq_none hall, inside?_eq_none hmem, Option.map_none]
  · have hs : ¬ Opens s := fun hs => hopens (hs.append back)
    rw [inside?_of_not_opens hopens, inside?_of_not_opens hs, Option.map_none]

/-! ## A field and its bracket -/

theorem recognise_eq_none {s : Text} (hsquare : s.head? ≠ some '[') (hround : s.head? ≠ some '(') :
    recognise s = none := by
  unfold recognise
  split
  · exact absurd rfl hsquare
  · exact absurd rfl hround
  · rfl

theorem recognise_consumes : Consumes recognise := by
  have hinside : ∀ wrapping closing s f after, inside? wrapping closing s = some (f, after) →
      ∃ mark, wrapping :: s = (wrapping :: mark) ++ after := by
    intro wrapping closing s f after h
    obtain ⟨key, value, ⟨rfl, _, _⟩, _, _⟩ := inside?_eq_some_iff.mp h
    exact ⟨key ++ ':' :: ':' :: value ++ [closing], by simp⟩
  intro s f after h
  unfold recognise at h
  split at h
  · obtain ⟨mark, hmark⟩ := hinside _ _ _ _ _ h
    exact ⟨_, List.cons_ne_nil _ _, hmark⟩
  · obtain ⟨mark, hmark⟩ := hinside _ _ _ _ _ h
    exact ⟨_, List.cons_ne_nil _ _, hmark⟩
  · cases h

theorem inside?_behind {mark back : Text} {f : InlineField}
    (h : inside? wrapping closing (mark ++ back) = some (f, back)) :
    (∀ behind, inside? wrapping closing (mark ++ behind) = some (f, behind)) ∧
      mark.getLast? = some closing := by
  obtain ⟨key, value, ⟨heq, hne, hinKey⟩, hvalue, rfl⟩ := inside?_eq_some_iff.mp h
  have hmark : mark = key ++ ':' :: ':' :: (value ++ [closing]) := by
    refine (List.append_left_inj back).mp ?_
    rw [heq]
    simp
  constructor
  · intro behind
    refine inside?_of_mem ⟨?_, hne, hinKey⟩ hvalue
    rw [hmark]
    simp
  · rw [hmark, ← List.cons_append, ← List.cons_append, ← List.append_assoc]
    exact List.getLast?_concat

/-- A field is read whatever stands behind it, and it ends with its closing bracket. -/
theorem recognise_behind {mark back : Text} {f : InlineField} (hne : mark ≠ [])
    (h : recognise (mark ++ back) = some (f, back)) :
    (∀ behind, recognise (mark ++ behind) = some (f, behind)) ∧
      ∃ c, mark.getLast? = some c ∧ isBlank c = false := by
  obtain ⟨c, rest, rfl⟩ := List.exists_cons_of_ne_nil hne
  have hlast : ∀ closing, rest.getLast? = some closing →
      (c :: rest).getLast? = some closing := by
    intro closing hclosing
    rw [List.getLast?_cons, hclosing]
    rfl
  rw [List.cons_append] at h
  unfold recognise at h
  split at h
  · next heq =>
      cases heq
      obtain ⟨hbehind, hclosing⟩ := inside?_behind h
      exact ⟨hbehind, ']', hlast _ hclosing, by decide⟩
  · next heq =>
      cases heq
      obtain ⟨hbehind, hclosing⟩ := inside?_behind h
      exact ⟨hbehind, ')', hlast _ hclosing, by decide⟩
  · cases h

/-- What can be the key of a field: a text that a bracket, two colons and a closing bracket
leave as it is, all on one line. -/
structure IsFieldKey (key : Text) : Prop where
  /-- There is a key. -/
  ne_nil : key ≠ []
  /-- It has no blanks around it. -/
  strip_eq : strip key = key
  /-- It has no brackets and no colons. -/
  inKey : ∀ c ∈ key, inKey c = true
  /-- It stands on one line. -/
  lf : '\n' ∉ key

/-- **A field is read back as it was written.** -/
theorem recognise_written {key value : Text} (hne : key ≠ []) (hkey : strip key = key)
    (hinKey : ∀ c ∈ key, inKey c = true) (hvalue : strip value = value) (hclose : ']' ∉ value)
    (back : Text) :
    recognise (bracketed key value ++ back) = some (⟨key, value, '['⟩, back) := by
  have hopening : Opening (key ++ ':' :: ':' :: ' ' :: value ++ [']'] ++ back) key
      ((' ' :: value) ++ ']' :: back) := ⟨by simp, hne, hinKey⟩
  have hblank : strip (' ' :: value) = value := by
    rw [← strip_stripStart] at hvalue ⊢
    exact hvalue
  have hfound : inside? '[' ']' (key ++ ':' :: ':' :: ' ' :: value ++ [']'] ++ back) =
      some (⟨strip key, strip (' ' :: value), '['⟩, back) :=
    inside?_of_mem hopening (by simp [hclose])
  rw [hkey, hblank] at hfound
  exact hfound

end InlineField
end NoteVault
