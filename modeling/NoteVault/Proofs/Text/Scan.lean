import NoteVault.Text.Scan

/-!
# What is found in a text

A scan goes through a text from the left. It only sees the places that it comes to, and not those
in the middle of a mark. What it finds on the way to a place is what it would find if other text
stood behind, as long as the same is recognised at the places it comes to.

So what it finds in the front of a text does not depend on where the front begins, and, as long as
every mark is recognised there for its own characters alone, not on what stands behind the front
either. Then the marks of a text put together of two parts are those of the parts.

## Main results

* `scan_of_recognise` — a mark at the beginning of a text, and the marks behind it.
* `ScansTo.scan_eq` — the marks on the way to a place, and those behind it.
* `scan_append` — the marks of two texts one after the other.
* `exists_scansTo_of_eq_append` — a scan comes to each mark that it finds.
* `later_eq_scan` — it begins anew behind each of them.
* `exists_mem_scan_of_recognise` — it misses none.
* `replace_of_recognise` — a mark is replaced, and then those behind it.
-/

namespace NoteVault

/-- A mark as it is found in a text with `k` more characters in front. -/
def Found.shift {α : Type} (k : Nat) (f : Found α) : Found α :=
  { f with start := f.start + k, stop := f.stop + k }

theorem Found.shift_shift {α : Type} (j k : Nat) (f : Found α) :
    (f.shift j).shift k = f.shift (k + j) := by
  simp only [Found.shift, Found.mk.injEq, true_and]
  omega

namespace Text

variable {α : Type} {recognise : Text → Option (α × Text)}

/-! ## Where a scan begins -/

theorem scanFrom_add (pos k skip : Nat) (s : Text) :
    scanFrom recognise (pos + k) skip s = (scanFrom recognise pos skip s).map (Found.shift k) := by
  induction s generalizing pos skip with
  | nil => rw [scanFrom, scanFrom, List.map_nil]
  | cons c rest ih =>
      have hpos : pos + k + 1 = pos + 1 + k := by omega
      cases skip with
      | succ skip => rw [scanFrom, scanFrom, hpos, ih]
      | zero =>
          rw [scanFrom, scanFrom, hpos]
          cases recognise (c :: rest) with
          | none => exact ih _ _
          | some found =>
              obtain ⟨value, after⟩ := found
              dsimp only
              rw [ih, List.map_cons]
              congr 1
              simp only [Found.shift, Found.mk.injEq, true_and]
              omega

/-- A scan that has characters to skip begins behind them. -/
theorem scanFrom_skip {skip : Nat} {s : Text} (pos : Nat) (h : skip ≤ s.length) :
    scanFrom recognise pos skip s = scanFrom recognise (pos + skip) 0 (s.drop skip) := by
  induction s generalizing pos skip with
  | nil =>
      obtain rfl : skip = 0 := Nat.le_zero.mp h
      rfl
  | cons c rest ih =>
      cases skip with
      | zero => rfl
      | succ skip =>
          have hpos : pos + (skip + 1) = pos + 1 + skip := by omega
          rw [scanFrom, ih (pos + 1) (Nat.le_of_succ_le_succ h), List.drop_succ_cons, hpos]

/-- Where no mark begins, the scan goes on behind the character. -/
theorem scan_cons_of_eq_none {c : Char} {rest : Text} (h : recognise (c :: rest) = none) :
    scan recognise (c :: rest) = (scan recognise rest).map (Found.shift 1) := by
  unfold scan
  rw [scanFrom, h]
  exact scanFrom_add 0 1 0 rest

/-- A text in which nothing can begin has no marks. -/
theorem scan_eq_nil {s : Text} (h : ∀ t, t ≠ [] → t <:+ s → recognise t = none) :
    scan recognise s = [] := by
  induction s with
  | nil => rfl
  | cons c rest ih =>
      rw [scan_cons_of_eq_none (h (c :: rest) (List.cons_ne_nil _ _) List.suffix_rfl),
        ih fun t hne ht => h t hne (ht.trans (List.suffix_cons c rest)), List.map_nil]

/-! ## One mark -/

/-- **A mark at the beginning of a text**, and the marks behind it. -/
theorem scan_of_recognise {mark back : Text} {value : α} (hne : mark ≠ [])
    (h : recognise (mark ++ back) = some (value, back)) :
    scan recognise (mark ++ back) =
      ⟨value, 0, mark.length⟩ :: (scan recognise back).map (Found.shift mark.length) := by
  obtain ⟨c, rest, rfl⟩ := List.exists_cons_of_ne_nil hne
  rw [List.cons_append] at h ⊢
  have hsize : (rest ++ back).length + 1 - back.length = rest.length + 1 := by
    simp only [List.length_append]
    omega
  have hskip : scanFrom recognise 1 rest.length (rest ++ back) =
      (scanFrom recognise 0 0 back).map (Found.shift (rest.length + 1)) := by
    rw [scanFrom_skip _ (by simp), List.drop_left, ← scanFrom_add]
    congr 1
    omega
  unfold scan
  rw [scanFrom, h]
  dsimp only
  rw [hsize, Nat.add_sub_cancel, Nat.zero_add, Nat.zero_add, hskip]
  rfl

/-- Recognising takes something off the beginning. -/
def Consumes (recognise : Text → Option (α × Text)) : Prop :=
  ∀ s value after, recognise s = some (value, after) → ∃ mark, mark ≠ [] ∧ s = mark ++ after

/-- Induction on a text from mark to mark. -/
theorem scan_induction {motive : Text → Prop} (hconsumes : Consumes recognise) (nil : motive [])
    (cons : ∀ c rest, recognise (c :: rest) = none → motive rest → motive (c :: rest))
    (mark : ∀ mark back value, mark ≠ [] → recognise (mark ++ back) = some (value, back) →
      motive back → motive (mark ++ back)) (s : Text) : motive s := by
  match s with
  | [] => exact nil
  | c :: rest =>
      cases hc : recognise (c :: rest) with
      | none => exact cons c rest hc (scan_induction hconsumes nil cons mark rest)
      | some found =>
          obtain ⟨value, back⟩ := found
          obtain ⟨m, hne, hm⟩ := hconsumes _ _ _ hc
          have hshorter : back.length < rest.length + 1 := by
            have hpos := List.length_pos_iff.mpr hne
            have hlength := congrArg List.length hm
            rw [List.length_cons, List.length_append] at hlength
            omega
          rw [hm] at hc ⊢
          exact mark m back value hne hc (scan_induction hconsumes nil cons mark back)
termination_by s.length

/-! ## The way to a place -/

/-- Whether a scan of `front` with `back` behind it comes to the beginning of `back`, and with
which marks. A place in the middle of a mark is none that it comes to. -/
inductive ScansTo (recognise : Text → Option (α × Text)) : Text → Text → List (Found α) → Prop
  /-- It begins there. -/
  | nil (back : Text) : ScansTo recognise [] back []
  /-- It goes past a character with which no mark begins. -/
  | cons {c : Char} {front back : Text} {marks : List (Found α)}
      (hnone : recognise (c :: (front ++ back)) = none) (h : ScansTo recognise front back marks) :
      ScansTo recognise (c :: front) back (marks.map (Found.shift 1))
  /-- It goes past a mark. -/
  | mark {mark front back : Text} {value : α} {marks : List (Found α)} (hne : mark ≠ [])
      (hmark : recognise (mark ++ (front ++ back)) = some (value, front ++ back))
      (h : ScansTo recognise front back marks) :
      ScansTo recognise (mark ++ front) back
        (⟨value, 0, mark.length⟩ :: marks.map (Found.shift mark.length))

/-- **The marks on the way to a place**, and those behind it. -/
theorem ScansTo.scan_eq {front back : Text} {marks : List (Found α)}
    (h : ScansTo recognise front back marks) :
    scan recognise (front ++ back) =
      marks ++ (scan recognise back).map (Found.shift front.length) := by
  have hshift : ∀ (j k : Nat) (found : List (Found α)),
      (found.map (Found.shift j)).map (Found.shift k) = found.map (Found.shift (k + j)) := by
    intro j k found
    rw [List.map_map]
    exact List.map_congr_left fun f _ => f.shift_shift j k
  induction h with
  | nil back => exact (List.map_id _).symm
  | cons hnone _ ih =>
      rw [List.cons_append, scan_cons_of_eq_none hnone, ih, List.map_append, hshift,
        List.length_cons, Nat.add_comm 1]
  | mark hne hmark _ ih =>
      rw [List.append_assoc, scan_of_recognise hne hmark, ih, List.map_append, hshift,
        List.length_append, List.cons_append]

/-- What is recognised in a text is recognised there whether or not `back` stands behind it. -/
def Undisturbed (recognise : Text → Option (α × Text)) (s back : Text) : Prop :=
  ∀ t, t ≠ [] → t <:+ s →
    recognise (t ++ back) = (recognise t).map fun found => (found.1, found.2 ++ back)

/-- A scan comes to the end of a text if the same is recognised in it with what stands behind. -/
theorem Undisturbed.scansTo (hconsumes : Consumes recognise) {s back : Text}
    (h : Undisturbed recognise s back) : ScansTo recognise s back (scan recognise s) := by
  induction s using scan_induction hconsumes with
  | nil => exact .nil back
  | cons c rest hnone ih =>
      have hc := h (c :: rest) (List.cons_ne_nil _ _) List.suffix_rfl
      rw [hnone] at hc
      rw [scan_cons_of_eq_none hnone]
      exact .cons hc (ih fun t hne ht => h t hne (ht.trans (List.suffix_cons c rest)))
  | mark mark rest value hne hmark ih =>
      have hwhole := h (mark ++ rest) (by simp [hne]) List.suffix_rfl
      rw [hmark, List.append_assoc] at hwhole
      rw [scan_of_recognise hne hmark]
      exact .mark hne hwhole (ih fun t hne ht => h t hne (ht.trans (List.suffix_append mark rest)))

theorem scansTo_end (hconsumes : Consumes recognise) (s : Text) :
    ScansTo recognise s [] (scan recognise s) := by
  refine Undisturbed.scansTo hconsumes fun t _ _ => ?_
  simp

/-- **The marks of two texts one after the other.** -/
theorem scan_append (hconsumes : Consumes recognise) {s back : Text}
    (h : Undisturbed recognise s back) :
    scan recognise (s ++ back) =
      scan recognise s ++ (scan recognise back).map (Found.shift s.length) :=
  (h.scansTo hconsumes).scan_eq

/-- A mark among shifted ones is a shifted mark. -/
theorem exists_of_map_shift {k : Nat} {found earlier later : List (Found α)} {f : Found α}
    (h : found.map (Found.shift k) = earlier ++ f :: later) :
    ∃ before g after, found = before ++ g :: after ∧ before.map (Found.shift k) = earlier ∧
      g.shift k = f := by
  obtain ⟨before, behind, rfl, hbefore, hbehind⟩ := List.map_eq_append_iff.mp h
  obtain ⟨g, after, rfl, hg, _⟩ := List.map_eq_cons_iff.mp hbehind
  exact ⟨before, g, after, rfl, hbefore, hg⟩

/-- **A scan comes to each mark that it finds**, past the marks that it has found before. -/
theorem exists_scansTo_of_eq_append (hconsumes : Consumes recognise) {s : Text} {f : Found α}
    {earlier later : List (Found α)} (h : scan recognise s = earlier ++ f :: later) :
    ∃ front mark back, s = front ++ (mark ++ back) ∧
      ScansTo recognise front (mark ++ back) earlier ∧ mark ≠ [] ∧ f.start = front.length ∧
      f.stop = f.start + mark.length ∧ recognise (mark ++ back) = some (f.value, back) := by
  induction s using scan_induction hconsumes generalizing earlier f later with
  | nil => exact absurd h.symm (by simp [scan, scanFrom])
  | cons c rest hnone ih =>
      rw [scan_cons_of_eq_none hnone] at h
      obtain ⟨before, g, after, hrest, rfl, rfl⟩ := exists_of_map_shift h
      obtain ⟨front, mark, back, rfl, hscan, hne, hstart, hstop, hmark⟩ := ih hrest
      refine ⟨c :: front, mark, back, rfl, .cons hnone hscan, hne, ?_, ?_, hmark⟩
      · rw [List.length_cons, ← hstart]
        rfl
      · simp only [Found.shift]
        omega
  | mark first rest value hne hfirst ih =>
      rw [scan_of_recognise hne hfirst] at h
      cases earlier with
      | nil =>
          obtain ⟨rfl, _⟩ := List.cons.inj h
          exact ⟨[], first, rest, rfl, .nil _, hne, rfl, (Nat.zero_add _).symm, hfirst⟩
      | cons e earlier =>
          obtain ⟨rfl, hmarks⟩ := List.cons.inj h
          obtain ⟨before, g, after, hrest, rfl, rfl⟩ := exists_of_map_shift hmarks
          obtain ⟨front, mark, back, rfl, hscan, hne', hstart, hstop, hmark⟩ := ih hrest
          refine ⟨first ++ front, mark, back, (List.append_assoc ..).symm,
            .mark hne hfirst hscan, hne', ?_, ?_, hmark⟩
          · rw [List.length_append, ← hstart, Nat.add_comm]
            rfl
          · simp only [Found.shift]
            omega

theorem exists_scansTo_of_mem (hconsumes : Consumes recognise) {s : Text} {f : Found α}
    (h : f ∈ scan recognise s) :
    ∃ front mark back marks, s = front ++ (mark ++ back) ∧
      ScansTo recognise front (mark ++ back) marks ∧ mark ≠ [] ∧ f.start = front.length ∧
      f.stop = f.start + mark.length ∧ recognise (mark ++ back) = some (f.value, back) := by
  obtain ⟨earlier, later, hsplit⟩ := List.append_of_mem h
  obtain ⟨front, mark, back, hfound⟩ := exists_scansTo_of_eq_append hconsumes hsplit
  exact ⟨front, mark, back, earlier, hfound⟩

/-- **A scan begins anew behind each mark that it finds.** -/
theorem later_eq_scan (hconsumes : Consumes recognise) {s : Text} {f : Found α}
    {earlier later : List (Found α)} (h : scan recognise s = earlier ++ f :: later) :
    (scan recognise (s.drop f.stop)).map (Found.shift f.stop) = later := by
  obtain ⟨front, mark, back, rfl, hscan, hne, hstart, hstop, hmark⟩ :=
    exists_scansTo_of_eq_append hconsumes h
  have hdrop : (front ++ (mark ++ back)).drop f.stop = back := by
    simp [hstop, hstart]
  have hlater := List.append_cancel_left (hscan.scan_eq.symm.trans h)
  rw [scan_of_recognise hne hmark, List.map_cons, List.map_map] at hlater
  rw [hdrop, ← (List.cons.inj hlater).2]
  refine List.map_congr_left fun g _ => ?_
  rw [Function.comp_apply, Found.shift_shift, hstop, hstart]

/-- **The marks of a scan come one behind the other.** -/
theorem pairwise_scan (hconsumes : Consumes recognise) (s : Text) :
    (scan recognise s).Pairwise fun f g => f.stop ≤ g.start := by
  have hshift : ∀ (k : Nat) (found : List (Found α)),
      found.Pairwise (fun f g => f.stop ≤ g.start) →
        (found.map (Found.shift k)).Pairwise fun f g => f.stop ≤ g.start := by
    intro k found h
    exact List.pairwise_map.mpr (h.imp fun hle => Nat.add_le_add_right hle k)
  induction s using scan_induction hconsumes with
  | nil => exact List.Pairwise.nil
  | cons c rest hnone ih =>
      rw [scan_cons_of_eq_none hnone]
      exact hshift 1 _ ih
  | mark mark rest value hne hmark ih =>
      rw [scan_of_recognise hne hmark]
      refine List.Pairwise.cons (fun g hg => ?_) (hshift _ _ ih)
      obtain ⟨g, _, rfl⟩ := List.mem_map.mp hg
      exact Nat.le_add_left _ _

/-- **No mark is missed**: a place where one begins is in a mark that is found. -/
theorem exists_mem_scan_of_recognise (hconsumes : Consumes recognise) (front : Text)
    {behind : Text} (h : recognise behind ≠ none) :
    ∃ f ∈ scan recognise (front ++ behind), f.start ≤ front.length ∧ front.length < f.stop := by
  generalize hs : front ++ behind = s
  induction s using scan_induction hconsumes generalizing front with
  | nil =>
      obtain ⟨_, rfl⟩ := List.append_eq_nil_iff.mp hs
      obtain ⟨⟨value, after⟩, hfound⟩ := Option.ne_none_iff_exists'.mp h
      obtain ⟨mark, hne, hmark⟩ := hconsumes _ _ _ hfound
      exact absurd (List.append_eq_nil_iff.mp hmark.symm).1 hne
  | cons c rest hnone ih =>
      cases front with
      | nil =>
          obtain rfl : behind = c :: rest := hs
          exact absurd hnone h
      | cons d front =>
          obtain ⟨rfl, hrest⟩ := List.cons.inj hs
          obtain ⟨f, hf, hstart, hstop⟩ := ih front hrest
          rw [scan_cons_of_eq_none hnone]
          exact ⟨f.shift 1, List.mem_map_of_mem hf, Nat.succ_le_succ hstart, Nat.succ_lt_succ hstop⟩
  | mark mark rest value hne hmark ih =>
      rw [scan_of_recognise hne hmark]
      by_cases hshort : front.length < mark.length
      · exact ⟨_, List.mem_cons_self, Nat.zero_le _, hshort⟩
      · -- the place is behind the mark
        have hlength : mark.length ≤ front.length := Nat.le_of_not_lt hshort
        obtain ⟨between, rfl⟩ : mark <+: front :=
          List.prefix_of_prefix_length_le (hs ▸ List.prefix_append mark rest)
            (List.prefix_append front behind) hlength
        have hrest : between ++ behind = rest :=
          List.append_cancel_left (by rw [← List.append_assoc, hs])
        obtain ⟨f, hf, hstart, hstop⟩ := ih between hrest
        refine ⟨f.shift mark.length, List.mem_cons_of_mem _ (List.mem_map_of_mem hf), ?_, ?_⟩
        · simp only [Found.shift, List.length_append]
          omega
        · simp only [Found.shift, List.length_append]
          omega

/-! ## Replacing marks -/

section

variable {recognise : Text → Option (Text × Text)}

/-- Characters that are part of a replaced mark are left out. -/
theorem replaceFrom_skip {skip : Nat} {s : Text} (h : skip ≤ s.length) :
    replaceFrom recognise skip s = replaceFrom recognise 0 (s.drop skip) := by
  induction s generalizing skip with
  | nil =>
      obtain rfl : skip = 0 := Nat.le_zero.mp h
      rfl
  | cons c rest ih =>
      cases skip with
      | zero => rfl
      | succ skip => rw [replaceFrom, ih (Nat.le_of_succ_le_succ h), List.drop_succ_cons]

/-- A character with which no mark begins stays. -/
theorem replace_cons_of_eq_none {c : Char} {rest : Text} (h : recognise (c :: rest) = none) :
    replace recognise (c :: rest) = c :: replace recognise rest := by
  unfold replace
  rw [replaceFrom, h]

/-- **A mark at the beginning of a text** is replaced, and then those behind it. -/
theorem replace_of_recognise {mark back replaced : Text} (hne : mark ≠ [])
    (h : recognise (mark ++ back) = some (replaced, back)) :
    replace recognise (mark ++ back) = replaced ++ replace recognise back := by
  obtain ⟨c, rest, rfl⟩ := List.exists_cons_of_ne_nil hne
  rw [List.cons_append] at h ⊢
  have hskip : (rest ++ back).length - back.length = rest.length := by simp
  unfold replace
  rw [replaceFrom, h]
  dsimp only
  rw [hskip, replaceFrom_skip (by simp), List.drop_left]

end

end Text
end NoteVault
