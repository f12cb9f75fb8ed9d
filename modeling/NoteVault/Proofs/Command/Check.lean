import NoteVault.Command.Check
import NoteVault.Proofs.Note.ItemEdit
import NoteVault.Proofs.Settings.Load

/-!
# What a check does to the files

A check loads the settings, reads the note, and rewrites the item on one line of it. So it leaves
the files as they are or it writes one of them, and what it writes is the text of the plan for
that item. The note that is read after it is the one of before or that text, and settings that
are in another file stay.

## Main results

* `CheckRequest.item?_eq_ok` — the item that a request is about.
* `runCheck_cases` — what a check does to the files.
* `read_runCheck` — what is read after a check.
* `load_runCheck` — a check leaves the settings.
-/

namespace NoteVault

open Text

variable {note : Text} {n : TaskNode}

/-- **The item that a request is about** is the one on its line. -/
theorem CheckRequest.item?_eq_ok {r : CheckRequest} :
    r.item? note = .ok n ↔ ∃ i : Nat, r.line = i + 1 ∧ itemAt? r.path note i = some n := by
  unfold CheckRequest.item? itemAt?
  dsimp only
  split
  · next hout =>
      constructor
      · intro h
        cases h
      · rintro ⟨i, hline, hitem⟩
        obtain ⟨line, hget, _⟩ := Option.bind_eq_some_iff.mp hitem
        have hi := (List.getElem?_eq_some_iff.mp hget).1
        omega
  · next hin =>
      have hi : (r.line - 1).toNat < (splitLines note).length := by omega
      have hcast : ((r.line - 1).toNat : Int) = r.line - 1 := by omega
      have hget : (splitLines note)[(r.line - 1).toNat]? =
          some ((splitLines note).getD (r.line - 1).toNat []) := by
        rw [List.getD_eq_getElem?_getD, List.getElem?_eq_getElem hi]
        rfl
      constructor
      · intro h
        refine ⟨(r.line - 1).toNat, by omega, ?_⟩
        rw [hget, Option.bind_some, hcast]
        split at h
        · next hnode => cases h; exact hnode
        · cases h
      · rintro ⟨i, hline, hitem⟩
        obtain rfl : i = (r.line - 1).toNat := by omega
        rw [hget, Option.bind_some, hcast] at hitem
        rw [hitem]

/-! ## On the files of a vault -/

variable {store : FileStore} {settings : Settings} {r : CheckRequest}

/-- What a check does to the files is what the rewrite of the item does. -/
theorem runCheck_snd (hsettings : Settings.load store.tree store.root = .ok settings)
    (hread : (DocumentStore.read store r.path).1 = .ok note) (today : Date) :
    (runCheck store today r).2 = match r.item? note with
      | .error _ => store
      | .ok n => (rewriteTask store n (r.edit settings today n)).2 := by
  have hread : DocumentStore.read store r.path = (.ok note, store) := Prod.ext hread rfl
  unfold runCheck
  rw [hsettings, hread]
  dsimp only
  cases r.item? note with
  | error message => rfl
  | ok n =>
      dsimp only
      cases rewriteTask store n (r.edit settings today n) with
      | mk result after =>
          cases result with
          | error error => cases error <;> rfl
          | ok outcome =>
              dsimp only
              split <;> rfl

/-- A rewrite leaves the files as they are, or it writes the text of its plan. -/
theorem rewriteTask_snd {e : TaskEdit} (hread : (DocumentStore.read store n.path).1 = .ok note) :
    (rewriteTask store n e).2 = store ∨ ∃ text, planRewrite n e note = .ok (.replace text) ∧
      (rewriteTask store n e).2 = (DocumentStore.write store n.path text).2 := by
  have hread : DocumentStore.read store n.path = (.ok note, store) := Prod.ext hread rfl
  unfold rewriteTask
  split
  · exact Or.inl rfl
  · rw [hread]
    dsimp only
    cases planRewrite n e note with
    | error error => exact Or.inl rfl
    | ok plan =>
        cases plan with
        | skip reason => exact Or.inl rfl
        | replace text =>
            refine Or.inr ⟨text, rfl, ?_⟩
            dsimp only
            cases DocumentStore.write store n.path text with
            | mk result after => cases result <;> rfl

/-- **What a check does to the files**: nothing, or it writes the text of the plan for the item it
is about. -/
theorem runCheck_cases (hsettings : Settings.load store.tree store.root = .ok settings)
    (hread : (DocumentStore.read store r.path).1 = .ok note) (today : Date) :
    (runCheck store today r).2 = store ∨ ∃ n text, r.item? note = .ok n ∧
      planRewrite n (r.edit settings today n) note = .ok (.replace text) ∧
      (runCheck store today r).2 = (DocumentStore.write store r.path text).2 := by
  rw [runCheck_snd hsettings hread]
  cases hitem : r.item? note with
  | error message => exact Or.inl rfl
  | ok n =>
      obtain ⟨i, _, hat⟩ := CheckRequest.item?_eq_ok.mp hitem
      obtain ⟨_, _, _, hpath, _⟩ := exists_item_of_itemAt? hat
      rw [← hpath] at hread ⊢
      refine (rewriteTask_snd hread).imp_right ?_
      rintro ⟨text, hplan, hwrite⟩
      exact ⟨n, text, rfl, hplan, hwrite⟩

theorem root_runCheck (hsettings : Settings.load store.tree store.root = .ok settings)
    (hread : (DocumentStore.read store r.path).1 = .ok note) (today : Date) :
    (runCheck store today r).2.root = store.root := by
  rcases runCheck_cases hsettings hread today with hsame | ⟨n, text, _, _, hwrite⟩
  · rw [hsame]
  · rw [hwrite, FileStore.root_write]

/-- **What is read after a check**: the note as it was, or the text of the plan for its item. -/
theorem read_runCheck (hroot : ['.', '.'] ∉ store.root)
    (hsettings : Settings.load store.tree store.root = .ok settings)
    (hread : (DocumentStore.read store r.path).1 = .ok note) (today : Date) :
    ∃ note', (DocumentStore.read (runCheck store today r).2 r.path).1 = .ok note' ∧
      (note' = note ∨ ∃ n, r.item? note = .ok n ∧
        planRewrite n (r.edit settings today n) note = .ok (.replace note')) := by
  rcases runCheck_cases hsettings hread today with hsame | ⟨n, text, hitem, hplan, hwrite⟩
  · rw [hsame]
    exact ⟨note, hread, Or.inl rfl⟩
  · rw [hwrite]
    refine ⟨_, FileStore.read_write hroot hread text, ?_⟩
    split
    · exact Or.inr ⟨n, hitem, hplan⟩
    · exact Or.inl rfl

/-- **A check of another file than the settings leaves them as they are.** -/
theorem load_runCheck (hroot : ['.', '.'] ∉ store.root)
    (hsettings : Settings.load store.tree store.root = .ok settings) (hne : settings ≠ .default)
    (hread : (DocumentStore.read store r.path).1 = .ok note)
    (hother : store.resolve r.path ≠ .ok (store.root ++ [Settings.fileName])) (today : Date) :
    Settings.load (runCheck store today r).2.tree (runCheck store today r).2.root =
      .ok settings := by
  rw [root_runCheck hsettings hread]
  rcases runCheck_cases hsettings hread today with hsame | ⟨n, text, _, _, hwrite⟩
  · rw [hsame, hsettings]
  · rw [hwrite]
    exact Settings.load_write hroot hread hother hsettings hne text

end NoteVault
