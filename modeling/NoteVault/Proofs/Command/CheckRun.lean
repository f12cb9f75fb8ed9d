import NoteVault.Proofs.Command.Check

/-!
# A run of checks keeps the stamps

If completion is tracked, a check puts a stamp into the text of an item that it completes and takes
it away from one that it opens. What it takes for completing is the status asked for, and whether
the item is completed already is read off the line. The item is then read again from the line that
was written. All this agrees as long as the status is a space or no blank, and the text is settled:
then it is settled again with the new status. So a run of checks leaves every item with a stamp
exactly if it is completed.

## Main results

* `exists_settled_of_planRewrite` — one check of a settled item.
* `load_checkRun` — a run of checks leaves the settings.
* `checkRun_stampsAgree` — a run of checks keeps stamps where they should be.
* `checkRun_disagrees` — checks that do not.
-/

namespace NoteVault

open Text InlineField

variable {key path note note' : Text} {i : Nat} {n : TaskNode} {store : FileStore}
  {settings : Settings}

/-! ## One check -/

/-- A request that completes or opens the item on a line of a note, or gives it a status that is
a space or is no blank. -/
structure CheckRequest.Toggles (path : Text) (r : CheckRequest) : Prop where
  /-- It is about the note. -/
  path_eq : r.path = path
  /-- It gives no text. -/
  text_eq : r.text = none
  /-- The status, if there is one. -/
  status : ∀ s, r.status = some s → ∃ c, s = [c] ∧ (c = ' ' ∨ isBlank c = false)

/-- The settings of a vault track completion under a key. -/
def Settings.Tracks (key : Text) (settings : Settings) : Prop :=
  settings.tracksCompletion = true ∧ settings.completionField = key

/-- A checkbox with a space is stripped to nothing, one with another character is not. -/
theorem isEmpty_strip_singleton {c : Char} (hc : c = ' ' ∨ isBlank c = false) :
    (!(strip [c]).isEmpty) = (c != ' ') := by
  rcases hc with rfl | hc
  · decide
  · have hne : c ≠ ' ' := by
      rintro rfl
      exact absurd hc (by decide)
    have hstrip : strip [c] = [c] := by
      simp [strip, stripStart, stripEnd, dropEndWhile, hc]
    rw [hstrip, bne_iff_ne.mpr hne]
    rfl

/-- The edit that such a request makes: a status and, if it completes or opens the item, the text
with a stamp or without it. -/
theorem CheckRequest.Toggles.edit_eq {r : CheckRequest} {settings : Settings} (h : r.Toggles path)
    (htracks : settings.Tracks key) (today : Date) (n : TaskNode) :
    ∃ c, (c = ' ' ∨ isBlank c = false) ∧ (r.edit settings today n).status = [c] ∧
      (r.edit settings today n).text = if (c != ' ') != n.completed then
        some (setCompletion n.text key (if c != ' ' then some today else none)) else none := by
  obtain ⟨c, hstatus, hc⟩ : ∃ c, r.status.getD (if n.completed then [' '] else ['X']) = [c] ∧
      (c = ' ' ∨ isBlank c = false) := by
    cases hgiven : r.status with
    | some s => exact h.status s hgiven
    | none =>
        cases n.completed with
        | true => exact ⟨' ', rfl, Or.inl rfl⟩
        | false => exact ⟨'X', rfl, Or.inr (by decide)⟩
  refine ⟨c, hc, hstatus, ?_⟩
  unfold CheckRequest.edit
  dsimp only
  rw [hstatus, isEmpty_strip_singleton hc, h.text_eq, htracks.1, htracks.2]
  simp

/-- **One check of an item that has the stamp it should have.** -/
theorem exists_settled_of_planRewrite {r : CheckRequest} {settings : Settings} {today : Date}
    (hkey : IsFieldKey key) (hr : r.Toggles path) (htracks : settings.Tracks key)
    (hitem : itemAt? path note i = some n) (hsettled : Settled key n.completed n.text)
    (hplan : planRewrite n (r.edit settings today n) note = .ok (.replace note')) :
    ∃ n' : TaskNode, Settled key n'.completed n'.text ∧
      ∀ j, itemAt? path note' j = if j = i then some n' else itemAt? path note j := by
  obtain ⟨c, hc, hstatus, hnewText⟩ := hr.edit_eq htracks today n
  obtain ⟨hi, item, hline, _, hnumber, _, htext, _⟩ := exists_item_of_itemAt? hitem
  have hlineLf := not_mem_of_mem_splitLines (List.getElem_mem hi)
  obtain ⟨_, hsuffix, hbare⟩ := ListItem.ofLine?_eq_some hlineLf hline
  rw [← htext] at hsuffix hbare
  have hlf : '\n' ∉ n.text := fun hmem => hlineLf (hsuffix.subset hmem)
  -- a line without a body is not written
  have hne : n.text ≠ [] := by
    obtain ⟨_, hskip, _⟩ := (planRewrite_eq_replace hnumber).mp hplan
    obtain ⟨item', hline', hbody, _⟩ := skipReason?_eq_none.mp hskip
    rw [hline] at hline'
    cases hline'
    rwa [htext]
  have hclf : c ≠ '\n' := by
    rintro rfl
    rcases hc with hc | hc
    · exact absurd hc (by decide)
    · exact absurd hc (by decide)
  obtain ⟨hlineText, hcr, hnew⟩ := settled_lineText hsettled hkey hlf hne hbare hnewText
  refine ⟨_, ?_, itemAt?_of_planRewrite hitem hstatus hclf hlineText (fun hlast => ?_) hplan⟩
  · rw [completed_lineTask]
    exact hnew
  · exact (mem_of_mem_splitLines (List.getElem_mem hi) (hsuffix.subset (hcr hlast))).1

/-! ## A run of checks -/

/-- The files after one check after another, each on its day. -/
def checkRun (store : FileStore) (calls : List (Date × CheckRequest)) : FileStore :=
  calls.foldl (fun store call => (runCheck store call.1 call.2).2) store

/-- **A run of checks of another file than the settings leaves them as they are.** -/
theorem load_checkRun {calls : List (Date × CheckRequest)} (hroot : ['.', '.'] ∉ store.root)
    (hsettings : Settings.load store.tree store.root = .ok settings) (hne : settings ≠ .default)
    (hread : (DocumentStore.read store path).1 = .ok note)
    (hother : store.resolve path ≠ .ok (store.root ++ [Settings.fileName]))
    (hcalls : ∀ call ∈ calls, call.2.path = path) :
    Settings.load (checkRun store calls).tree (checkRun store calls).root = .ok settings := by
  induction calls generalizing store note with
  | nil => exact hsettings
  | cons call calls ih =>
      have hpath := hcalls call List.mem_cons_self
      rw [← hpath] at hread hother
      have hsame := root_runCheck hsettings hread call.1
      obtain ⟨note', hread', _⟩ := read_runCheck hroot hsettings hread call.1
      have hsettings' := load_runCheck hroot hsettings hne hread hother call.1
      have hother' : (runCheck store call.1 call.2).2.resolve call.2.path ≠
          .ok ((runCheck store call.1 call.2).2.root ++ [Settings.fileName]) := by
        unfold FileStore.resolve at hother ⊢
        rwa [hsame]
      rw [hpath] at hread' hother'
      exact ih (hsame ▸ hroot) hsettings' hread' hother' fun other hmem =>
        hcalls other (List.mem_cons_of_mem call hmem)

/-- Whether every list item of a note has a stamp exactly if it is completed. -/
def StampsAgree (key path note : Text) : Prop :=
  ∀ i n, itemAt? path note i = some n → (n.completed = true ↔ fieldsUnder n.text key ≠ [])

theorem stampsAgree_iff : StampsAgree key path note ↔
    ∀ i < (splitLines note).length, ∀ n ∈ itemAt? path note i,
      n.completed = !(fieldsUnder n.text key).isEmpty := by
  have hstamp : ∀ n : TaskNode, (n.completed = true ↔ fieldsUnder n.text key ≠ []) ↔
      n.completed = !(fieldsUnder n.text key).isEmpty := by
    intro n
    cases n.completed <;> simp
  constructor
  · intro h i _ n hn
    exact (hstamp n).mp (h i n hn)
  · intro h i n hn
    obtain ⟨hi, _⟩ := exists_item_of_itemAt? hn
    exact (hstamp n).mpr (h i hi n hn)

instance : Decidable (StampsAgree key path note) := decidable_of_iff _ stampsAgree_iff.symm

/-- A note before a run of checks: stamps are where they should be, and on the lines that are
checked the items are settled. -/
structure Checkable (key path : Text) (calls : List (Date × CheckRequest)) (note : Text) :
    Prop where
  /-- Every list item has a stamp exactly if it is completed. -/
  agree : StampsAgree key path note
  /-- The items on the lines that are checked are settled. -/
  settled : ∀ call ∈ calls, ∀ i n, call.2.line = (i : Nat) + 1 → itemAt? path note i = some n →
    Settled key n.completed n.text

/-- **One check** leaves the note as it should be before the others. -/
theorem Checkable.step {call : Date × CheckRequest} {calls : List (Date × CheckRequest)}
    (h : Checkable key path (call :: calls) note) (hkey : IsFieldKey key)
    (hr : call.2.Toggles path) (htracks : settings.Tracks key)
    (hitem : call.2.item? note = .ok n)
    (hplan : planRewrite n (call.2.edit settings call.1 n) note = .ok (.replace note')) :
    Checkable key path calls note' := by
  obtain ⟨i, hline, hat⟩ := CheckRequest.item?_eq_ok.mp hitem
  rw [hr.path_eq] at hat
  have hsettled := h.settled call List.mem_cons_self i n hline hat
  obtain ⟨n', hsettled', hitems⟩ :=
    exists_settled_of_planRewrite hkey hr htracks hat hsettled hplan
  constructor
  · intro j m hm
    rw [hitems j] at hm
    split at hm
    · cases hm
      exact hsettled'.fieldsUnder_ne_nil_iff
    · exact h.agree j m hm
  · intro other hother j m hj hm
    rw [hitems j] at hm
    split at hm
    · cases hm
      exact hsettled'
    · exact h.settled other (List.mem_cons_of_mem call hother) j m hj hm

/-- **A run of checks keeps the stamps.** If the list items of a note have a stamp exactly if they
are completed, so have those of the note after a run of checks, each on any line and with the
default status or one that is a space or no blank, as long as completion is tracked under the key
and the items on the lines that are checked can be stamped and have more text than a stamp. -/
theorem checkRun_stampsAgree {calls : List (Date × CheckRequest)} (hkey : IsFieldKey key)
    (hroot : ['.', '.'] ∉ store.root) (hread : (DocumentStore.read store path).1 = .ok note)
    (hagree : StampsAgree key path note)
    (hcalls : ∀ call ∈ calls, call.2.Toggles path)
    (hitems : ∀ call ∈ calls, ∀ n, call.2.item? note = .ok n → Togglable key n.text)
    (htracks : ∀ before call after, calls = before ++ call :: after →
      ∃ settings, Settings.load (checkRun store before).tree (checkRun store before).root =
        .ok settings ∧ settings.Tracks key) :
    ∃ after, (DocumentStore.read (checkRun store calls) path).1 = .ok after ∧
      StampsAgree key path after := by
  have hnote : Checkable key path calls note := by
    refine ⟨hagree, fun call hcall i n hline hat => ?_⟩
    refine Settled.of_togglable (hitems call hcall n ?_) (hagree i n hat)
    exact CheckRequest.item?_eq_ok.mpr ⟨i, hline, (hcalls call hcall).path_eq ▸ hat⟩
  clear hagree hitems
  induction calls generalizing store note with
  | nil => exact ⟨note, hread, hnote.agree⟩
  | cons call calls ih =>
      have hcall := hcalls call List.mem_cons_self
      obtain ⟨settings, hsettings, hkeyed⟩ := htracks [] call calls rfl
      rw [← hcall.path_eq] at hread
      have hsame := root_runCheck hsettings hread call.1
      obtain ⟨note', hread', hresult⟩ := read_runCheck hroot hsettings hread call.1
      rw [hcall.path_eq] at hread'
      refine ih (hsame ▸ hroot) hread' (fun other hother => ?_)
        (fun before other after heq => ?_) ?_
      · exact hcalls other (List.mem_cons_of_mem call hother)
      · exact htracks (call :: before) other after (by rw [heq, List.cons_append])
      · rcases hresult with rfl | ⟨n, hitem, hplan⟩
        · exact ⟨hnote.agree, fun other hother =>
            hnote.settled other (List.mem_cons_of_mem call hother)⟩
        · exact hnote.step hkey hcall hkeyed hitem hplan

/-- A vault with settings and one note. -/
def vaultWith (settings note : Text) : FileStore :=
  let file (text : Text) : FileEntry := .file (String.ofList text).toUTF8 0
  { root := [['v']]
    tree := { entries := [([['v']], .directory), ([['v'], Settings.fileName], file settings),
      ([['v'], ['n']], file note)] } }

/-- The settings of a vault that tracks completion. -/
def trackingSettings : Text := "task_completion_tracking = true"

/-- A text that is a stamp and more. -/
def stampedText : Text := "[completion:: 2020-01-01] b"

theorem togglable_stampedText : Togglable "completion" stampedText := by
  have hfields : fieldsUnder stampedText "completion" =
      [⟨⟨"completion", "2020-01-01", '['⟩, 0, 25⟩] := rfl
  have hbehind : ∀ c ∈ stampedText.drop 25, inKey c = true := List.all_eq_true.mp rfl
  have hfront : ∀ c ∈ stampedText.take 0, inKey c = true := List.all_eq_true.mp rfl
  constructor
  · constructor
    · rw [hfields]
      decide
    · intro hnone
      rw [hfields] at hnone
      cases hnone
    · intro f hf
      rw [hfields, List.mem_singleton] at hf
      subst hf
      exact ⟨fieldsClose_of_inKey hfront _, fieldsClose_of_inKey hfront _,
        fieldsClose_of_inKey hbehind _, keyFree_of_inKey hfront, keyFree_of_inKey hbehind⟩
  · intro f hf
    rw [hfields, List.mem_singleton] at hf
    subst hf
    exact ⟨'b', by decide, by decide⟩

/-- A note with an open task, a completed one in a quote and a plain item. -/
def listNote : Text := "- [ ] a\n> 2) [x] [completion:: 2020-01-01] b\r\n* c"

/-- Checks of all lines of that note, and of one that it does not have. -/
def listCalls : List (Date × CheckRequest) :=
  let check (line : Int) (status : Option Text) : CheckRequest := { path := ['n'], line, status }
  [(⟨2024, 5, 6, by decide⟩, check 1 none), (⟨2024, 5, 7, by decide⟩, check 2 none),
    (⟨2024, 5, 7, by decide⟩, check 4 none), (⟨2024, 5, 8, by decide⟩, check 3 (some ['-'])),
    (⟨2024, 5, 9, by decide⟩, check 1 (some [' '])), (⟨2024, 12, 31, by decide⟩, check 2 none)]

theorem eq_ok_of_toOption {ε α : Type} {x : Except ε α} {a : α} (h : x.toOption = some a) :
    x = .ok a := by
  cases x with
  | error error => cases h
  | ok b => cases h; rfl

theorem checkRun_stampsAgree_list :
    IsFieldKey "completion" ∧ StampsAgree "completion" ['n'] listNote ∧
      (∀ call ∈ listCalls, call.2.Toggles ['n']) ∧
      (∀ call ∈ listCalls, ∀ n, call.2.item? listNote = .ok n → Togglable "completion" n.text) ∧
      ∃ after, (DocumentStore.read (checkRun (vaultWith trackingSettings listNote) listCalls)
          ['n']).1 = .ok after ∧ StampsAgree "completion" ['n'] after := by
  have hkey : IsFieldKey "completion" := ⟨by decide, by decide, List.all_eq_true.mp rfl, by decide⟩
  have hagree : StampsAgree "completion" ['n'] listNote := by decide +kernel
  have hread : (DocumentStore.read (vaultWith trackingSettings listNote) ['n']).1 =
      .ok listNote := eq_ok_of_toOption (by decide +kernel)
  have hsettings : Settings.load (vaultWith trackingSettings listNote).tree [['v']] =
      .ok { tracksCompletion := true } := eq_ok_of_toOption (by decide +kernel)
  have hcalls : ∀ call ∈ listCalls, call.2.Toggles ['n'] := by
    intro call hcall
    have hpath : call.2.path = ['n'] ∧ call.2.text = none := by
      revert call
      decide
    have hstatus : call.2.status = none ∨ call.2.status = some ['-'] ∨
        call.2.status = some [' '] := by
      revert call
      decide
    refine ⟨hpath.1, hpath.2, fun s hs => ?_⟩
    rw [hs] at hstatus
    rcases hstatus with hstatus | hstatus | hstatus
    · cases hstatus
    · exact ⟨'-', Option.some.inj hstatus, Or.inr (by decide)⟩
    · exact ⟨' ', Option.some.inj hstatus, Or.inl rfl⟩
  have hitems : ∀ call ∈ listCalls, ∀ n, call.2.item? listNote = .ok n →
      Togglable "completion" n.text := by
    have htexts : ∀ call ∈ listCalls, ∀ text ∈ (call.2.item? listNote).toOption.map (·.text),
        text = ['a'] ∨ text = stampedText ∨ text = ['c'] := by decide +kernel
    intro call hcall n hn
    rcases htexts call hcall n.text (by rw [hn]; rfl) with htext | htext | htext
    · rw [htext]
      exact togglable_of_inKey (List.all_eq_true.mp rfl)
    · rw [htext]
      exact togglable_stampedText
    · rw [htext]
      exact togglable_of_inKey (List.all_eq_true.mp rfl)
  refine ⟨hkey, hagree, hcalls, hitems,
    checkRun_stampsAgree hkey (by decide) hread hagree hcalls hitems ?_⟩
  -- the note is another file than the settings
  intro before call after heq
  refine ⟨_, load_checkRun (by decide) hsettings (by decide) hread ?_ ?_, rfl, rfl⟩
  · have hplace : (vaultWith trackingSettings listNote).resolve ['n'] = .ok [['v'], ['n']] := rfl
    rw [hplace]
    intro hsame
    exact absurd (Except.ok.inj hsame) (by decide)
  · intro earlier hearlier
    exact (hcalls earlier (by rw [heq]; exact List.mem_append_left _ hearlier)).path_eq

/-- The note of a vault after a check of its first line. -/
def checkedNote (settings note : Text) (status : Option Text) : Option Text :=
  let call := (⟨2024, 5, 6, by decide⟩, { path := ['n'], line := 1, status })
  (DocumentStore.read (checkRun (vaultWith settings note) [call]) ['n']).1.toOption

/-- Whether a check of the first line of a note makes stamps and statuses disagree. -/
def Disagrees (key settings note : Text) (status : Option Text) (after : Text) : Prop :=
  (Settings.load (vaultWith settings note).tree (vaultWith settings note).root).toOption.map
      (fun settings => (settings.tracksCompletion, settings.completionField)) = some (true, key) ∧
    StampsAgree key ['n'] note ∧ checkedNote settings note status = some after ∧
    ¬ StampsAgree key ['n'] after

/-- A task that has its stamp twice is opened and keeps both, and an empty key names no field. A
status that is a blank but no space counts as completed when it is read and not when it is asked
for, nothing is left to write of a text that is only a stamp, and a bracket can take a stamp for
the end of its own field. -/
theorem checkRun_disagrees :
    Disagrees "completion" trackingSettings "- [X] a [completion:: 1] [completion:: 2]" none
        "- [ ] a [completion:: 1] [completion:: 2]" ∧
      Disagrees "" (trackingSettings ++ "\ntask_completion_text = ''") "- [ ] a" none
        "- [X] a [:: 2024-05-06]" ∧
      Disagrees "completion" trackingSettings "- [ ] a" (some "\t") "- [\t] a" ∧
      Disagrees "completion" trackingSettings "- [X] [completion:: 1]" none
        "- [ ] [completion:: 1]" ∧
      Disagrees "completion" trackingSettings "- [ ] [x:: y" none
        "- [X] [x:: y [completion:: 2024-05-06]" := by
  unfold Disagrees
  decide +kernel

end NoteVault
