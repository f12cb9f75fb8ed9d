import Mathlib.Data.Set.Defs
import NoteVault.Proofs.Note.Outcome
import NoteVault.Proofs.Store.Paths

/-!
# Stores that take each other's place

On ordinary paths nothing tells documents in files from documents in memory. What a store of
files has more than a list of documents, that paths are resolved, that directories must be there,
and that a file stands beside a document while it is written, is never seen.

Both stores are run side by side. After each step they still have the same documents, and the
files still are such that the paths are ordinary. Nothing beside a document is left over from a
write, and what is beside one of the documents is none of the others; this is what the paths have
to be apart for. The files that are no documents stay as they are.

Files can only have names of a limited length, so a path is ordinary only if the file beside its
document can have its name.

## Main results

* `Tracks.read`, `Tracks.write`, `Tracks.rewrite` — what the stores do side by side.
* `Tracks.run` — a step keeps them side by side.
* `runSteps_sameAnswers` — a run on both.
-/

namespace NoteVault

/-! ## Steps -/

/-- A step on a store. -/
inductive StoreStep where
  /-- Reads a document. -/
  | read (path : Text)
  /-- Writes a document. -/
  | write (path text : Text)
  /-- Rewrites a task. -/
  | rewrite (n : TaskNode) (e : TaskEdit)

/-- The answer to a step that is not refused. -/
inductive StoreAnswer where
  /-- The document. -/
  | document (text : Text)
  /-- The document was written. -/
  | written
  /-- What the rewrite did. -/
  | rewritten (outcome : RewriteOutcome)
  deriving DecidableEq

namespace StoreStep

/-- The path of the document that a step is about. -/
def path : StoreStep → Text
  | .read path => path
  | .write path _ => path
  | .rewrite n _ => n.path

/-- A step that does not look for a line before the beginning of the document. -/
def Forward : StoreStep → Prop
  | .rewrite n _ => 0 ≤ n.line
  | _ => True

/-- The answer of a store to a step, and the store after it. -/
def run {σ : Type} [DocumentStore σ] (store : σ) :
    StoreStep → Except RewriteError StoreAnswer × σ
  | .read path =>
    let (result, store) := DocumentStore.read store path
    ((result.mapError .store).map .document, store)
  | .write path text =>
    let (result, store) := DocumentStore.write store path text
    ((result.mapError .store).map fun _ => .written, store)
  | .rewrite n e =>
    let (result, store) := rewriteTask store n e
    (result.map .rewritten, store)

end StoreStep

/-- The answers of a store to some steps, and the store after them. -/
def runSteps {σ : Type} [DocumentStore σ] (store : σ) :
    List StoreStep → List (Except RewriteError StoreAnswer) × σ
  | [] => ([], store)
  | step :: rest =>
    let (answer, store) := step.run store
    let (answers, store) := runSteps store rest
    (answer :: answers, store)

/-- A step was refused because there is no document. -/
def RewriteError.IsMissing : RewriteError → Prop
  | .store (.missing _) | .store (.file .missing _ _) => True
  | _ => False

/-- Two stores give the same answer. Both may say that there is no document, in their own
words. -/
inductive SameAnswer : Except RewriteError StoreAnswer → Except RewriteError StoreAnswer → Prop
  /-- Both give one answer. -/
  | ok (answer : StoreAnswer) : SameAnswer (.ok answer) (.ok answer)
  /-- There is no document. -/
  | missing {e e' : RewriteError} (h : e.IsMissing) (h' : e'.IsMissing) :
    SameAnswer (.error e) (.error e')

/-! ## Ordinary paths -/

/-- The location of a document. -/
abbrev FileStore.placeOf (s : FileStore) (path : Text) : Location := resolvePath s.root path

/-- Paths for whose documents there is room in the vault. -/
structure OrdinaryPaths (s : FileStore) (paths : Set Text) : Prop where
  /-- No name in the location of the vault goes up. -/
  root : ['.', '.'] ∉ s.root
  /-- The paths are plain. -/
  plain : ∀ path ∈ paths, PlainPath path
  /-- None of them is another one with `.tmp` behind. -/
  apart : ∀ path ∈ paths, ∀ other ∈ paths, path ++ ".tmp" ≠ other
  /-- The directory of a document is there. -/
  parent : ∀ path ∈ paths, s.tree.locate (s.placeOf path).dropLast = .ok .directory
  /-- There is no directory in place of a document. -/
  notDirectory : ∀ path ∈ paths, s.tree.entry? (s.placeOf path) ≠ some .directory
  /-- There is nothing beside a document. -/
  clear : ∀ path ∈ paths, s.tree.entry? (FileStore.besides (s.placeOf path)) = none
  /-- The file beside a document can have its name. -/
  short : ∀ path ∈ paths,
    (String.ofList ((s.placeOf path).getLastD [] ++ ".tmp")).utf8ByteSize ≤ maxNameBytes

/-- The stores have the same documents under some paths. -/
def SameDocuments (s : FileStore) (m : MemoryStore) (paths : Set Text) : Prop :=
  ∀ path ∈ paths, match m.document? path with
    | some text => ∃ modified, s.tree.entry? (s.placeOf path) =
        some (.file (String.ofList text).toUTF8 modified)
    | none => s.tree.entry? (s.placeOf path) = none

/-- The files that have no place for a document among some paths are as before. -/
def SameElsewhere (start s : FileStore) (paths : Set Text) : Prop :=
  ∀ place, (∀ path ∈ paths, place ≠ start.placeOf path) →
    s.tree.entry? place = start.tree.entry? place

theorem OrdinaryPaths.hasPlace {s : FileStore} {paths : Set Text} {path : Text}
    (h : OrdinaryPaths s paths) (hpath : path ∈ paths) : s.tree.HasPlace (s.placeOf path) where
  dots := dots_not_mem_resolvePath (h.plain path hpath) h.root
  ne_nil := resolvePath_ne_nil (h.plain path hpath)
  parent := h.parent path hpath
  short := h.short path hpath

open FileTree in
/-- **Paths stay ordinary** when a document of theirs gets other bytes. -/
theorem OrdinaryPaths.of_put {s : FileStore} {paths : Set Text} {path : Text}
    (h : OrdinaryPaths s paths) (hpath : path ∈ paths) {t' : FileTree} {bytes : ByteArray}
    {modified : Int} (ht' : ∀ p, t'.entry? p = if p = s.placeOf path
      then some (.file bytes modified) else s.tree.entry? p) :
    OrdinaryPaths { s with tree := t' } paths where
  root := h.root
  plain := h.plain
  apart := h.apart
  parent other hother := by
    have hdots : ['.', '.'] ∉ (s.placeOf other).dropLast := fun hmem =>
      (h.hasPlace hother).dots (List.dropLast_subset _ hmem)
    have hparent := h.parent other hother
    -- directories are no places for documents
    have hstays : ∀ front, s.tree.entry? front = some .directory →
        t'.entry? front = s.tree.entry? front := by
      intro front hfront
      rw [ht', if_neg]
      rintro rfl
      exact h.notDirectory path hpath hfront
    have hself := entry?_of_locate hdots hparent
    refine locate_of_above hdots hparent (fun front hfront hne => ?_) ((hstays _ hself).trans hself)
    exact hstays front (entry?_above_of_locate hdots hparent hfront hne)
  notDirectory other hother := by
    show t'.entry? (s.placeOf other) ≠ _
    rw [ht']
    split
    · exact nofun
    · exact h.notDirectory other hother
  clear other hother := by
    show t'.entry? (FileStore.besides (s.placeOf other)) = none
    rw [ht', if_neg]
    · exact h.clear other hother
    · rw [besides_eq_resolvePath_iff (h.plain other hother) (h.plain path hpath)]
      exact h.apart other hother path hpath
  short := h.short

/-! ## Side by side -/

/-- Files and documents in memory side by side, on their way from `start`. -/
structure Tracks (start s : FileStore) (m : MemoryStore) (paths : Set Text) : Prop where
  /-- The vault is where it was. -/
  root : s.root = start.root
  /-- The paths are ordinary. -/
  ordinary : OrdinaryPaths s paths
  /-- Both have the same documents. -/
  same : SameDocuments s m paths
  /-- All other files are as they were. -/
  elsewhere : SameElsewhere start s paths

namespace Tracks

variable {start s : FileStore} {m : MemoryStore} {paths : Set Text} {path : Text}

theorem afterRead (h : Tracks start s m paths) (path : Text) :
    Tracks start s (m.afterRead path) paths := ⟨h.root, h.ordinary, h.same, h.elsewhere⟩

/-- **A read** gives the same document, or finds none in both. -/
theorem read (h : Tracks start s m paths) (hpath : path ∈ paths) :
    (∃ text, DocumentStore.read s path = (.ok text, s) ∧
      DocumentStore.read m path = (.ok text, m.afterRead path)) ∨
    ∃ e e', DocumentStore.read s path = (.error e, s) ∧
      DocumentStore.read m path = (.error e', m.afterRead path) ∧
      (RewriteError.store e).IsMissing ∧ (RewriteError.store e').IsMissing := by
  have hresolve := s.resolve_of_plain (h.ordinary.plain path hpath)
  have hplace := h.ordinary.hasPlace hpath
  have hsame := h.same path hpath
  cases hdoc : m.document? path with
  | some text =>
      rw [hdoc] at hsame
      obtain ⟨modified, hentry⟩ := hsame
      exact Or.inl ⟨text, FileStore.read_of_file hresolve hplace hentry, m.read_of_some hdoc⟩
  | none =>
      rw [hdoc] at hsame
      exact Or.inr ⟨_, _, FileStore.read_of_none hresolve hplace hsame, m.read_of_none hdoc,
        trivial, trivial⟩

/-- **A write** succeeds in both, and leaves them side by side. -/
theorem write (h : Tracks start s m paths) (hpath : path ∈ paths) (text : Text) :
    ∃ s', DocumentStore.write s path text = (.ok (), s') ∧
      DocumentStore.write m path text = (.ok (), m.afterWrite path text) ∧
      Tracks start s' (m.afterWrite path text) paths := by
  have hplain := h.ordinary.plain path hpath
  obtain ⟨t', hwrite, ht'⟩ := FileStore.write_of_place (s.resolve_of_plain hplain)
    (h.ordinary.hasPlace hpath) (h.ordinary.clear path hpath)
    (h.ordinary.notDirectory path hpath) text
  refine ⟨_, hwrite, rfl, h.root, h.ordinary.of_put hpath ht', fun other hother => ?_,
    fun place hplace => ?_⟩
  · show match (m.afterWrite path text).document? other with
      | some text => ∃ modified, t'.entry? (s.placeOf other) =
          some (.file (String.ofList text).toUTF8 modified)
      | none => t'.entry? (s.placeOf other) = none
    by_cases heq : other = path
    · rw [heq, m.document?_write_self, ht', if_pos rfl]
      exact ⟨_, rfl⟩
    · have hne : s.placeOf other ≠ s.placeOf path := fun hplaces =>
        heq ((resolvePath_inj (h.ordinary.plain other hother) hplain).mp hplaces)
      rw [m.document?_write_of_ne text heq, ht', if_neg hne]
      exact h.same other hother
  · show t'.entry? place = _
    rw [ht', if_neg, h.elsewhere place hplace]
    show place ≠ resolvePath s.root path
    rw [h.root]
    exact hplace path hpath

/-- **A rewrite** does the same in both, and leaves them side by side. -/
theorem rewrite {n : TaskNode} (h : Tracks start s m paths) (hpath : n.path ∈ paths)
    (hline : 0 ≤ n.line) (e : TaskEdit) :
    SameAnswer ((rewriteTask s n e).1.map .rewritten) ((rewriteTask m n e).1.map .rewritten) ∧
      Tracks start (rewriteTask s n e).2 (rewriteTask m n e).2 paths := by
  by_cases hnothing : e.AsksNothing n
  · rw [rewriteTask_of_asksNothing hnothing, rewriteTask_of_asksNothing hnothing]
    exact ⟨.ok _, h⟩
  · rcases h.read hpath with ⟨note, hs, hm⟩ | ⟨error, error', hs, hm, hmissing, hmissing'⟩
    · cases hplan : planRewrite n e note with
      | error error => exact absurd hplan (planRewrite_ne_error hline error)
      | ok plan =>
          cases plan with
          | skip reason =>
              rw [rewriteTask_of_skip hnothing hs hplan, rewriteTask_of_skip hnothing hm hplan]
              exact ⟨.ok _, h.afterRead n.path⟩
          | replace text =>
              obtain ⟨s', hs', hm', htracks⟩ := (h.afterRead n.path).write hpath text
              rw [rewriteTask_of_replace hnothing hs hplan,
                rewriteTask_of_replace hnothing hm hplan]
              unfold writeBack
              rw [hs', hm']
              exact ⟨.ok _, htracks⟩
    · rw [rewriteTask_of_read_error hnothing hs, rewriteTask_of_read_error hnothing hm]
      exact ⟨.missing hmissing hmissing', h.afterRead n.path⟩

/-- **A step** gets the same answer from both, and leaves them side by side. -/
theorem run {step : StoreStep} (h : Tracks start s m paths) (hpath : step.path ∈ paths)
    (hforward : step.Forward) :
    SameAnswer (step.run s).1 (step.run m).1 ∧
      Tracks start (step.run s).2 (step.run m).2 paths := by
  cases step with
  | read path =>
      have hpath : path ∈ paths := hpath
      rcases h.read hpath with ⟨text, hs, hm⟩ | ⟨error, error', hs, hm, hmissing, hmissing'⟩
      · simp only [StoreStep.run, hs, hm]
        exact ⟨.ok _, h.afterRead path⟩
      · simp only [StoreStep.run, hs, hm]
        exact ⟨.missing hmissing hmissing', h.afterRead path⟩
  | write path text =>
      have hpath : path ∈ paths := hpath
      obtain ⟨s', hs, hm, htracks⟩ := h.write hpath text
      simp only [StoreStep.run, hs, hm]
      exact ⟨.ok _, htracks⟩
  | rewrite n e => exact h.rewrite hpath hforward e

/-- **A run** gets the same answers from both, and leaves them side by side. -/
theorem runSteps {steps : List StoreStep} (h : Tracks start s m paths)
    (hsteps : ∀ step ∈ steps, step.path ∈ paths ∧ step.Forward) :
    List.Forall₂ SameAnswer (NoteVault.runSteps s steps).1 (NoteVault.runSteps m steps).1 ∧
      Tracks start (NoteVault.runSteps s steps).2 (NoteVault.runSteps m steps).2 paths := by
  induction steps generalizing s m with
  | nil => exact ⟨.nil, h⟩
  | cons step rest ih =>
      obtain ⟨hpath, hforward⟩ := hsteps step List.mem_cons_self
      obtain ⟨hanswer, hafter⟩ := h.run hpath hforward
      obtain ⟨hanswers, hend⟩ := ih hafter fun step hstep =>
        hsteps step (List.mem_cons_of_mem _ hstep)
      exact ⟨.cons hanswer hanswers, hend⟩

end Tracks

/-! ## Runs -/

/-- **On ordinary paths files and documents in memory are the same.** If both stores have the
same documents under some paths, then they answer every run of reads, writes and rewrites of these
documents in the same way and have the same documents at the end. The files under no such path
stay as they are. -/
theorem runSteps_sameAnswers {s : FileStore} {m : MemoryStore} {paths : Set Text}
    {steps : List StoreStep} (hpaths : OrdinaryPaths s paths) (hsame : SameDocuments s m paths)
    (hsteps : ∀ step ∈ steps, step.path ∈ paths ∧ step.Forward) :
    List.Forall₂ SameAnswer (runSteps s steps).1 (runSteps m steps).1 ∧
      (runSteps s steps).2.root = s.root ∧
      SameDocuments (runSteps s steps).2 (runSteps m steps).2 paths ∧
      SameElsewhere s (runSteps s steps).2 paths := by
  have hstart : Tracks s s m paths := ⟨rfl, hpaths, hsame, fun _ _ => rfl⟩
  obtain ⟨hanswers, hend⟩ := hstart.runSteps hsteps
  exact ⟨hanswers, hend.root, hend.same, hend.elsewhere⟩

/-- A vault with a note in a directory, and with a file that is no document. -/
def noteFiles : FileStore where
  tree := { entries := [(["vault"], .directory), (["vault", "d"], .directory),
    (["vault", "d", "n"], .file (String.ofList "- [ ] a\r\n").toUTF8 0),
    (["vault", "n.tmp"], .file (String.ofList "draft").toUTF8 0)] }
  root := ["vault"]

/-- The note in memory. -/
def noteMemory : MemoryStore := { documents := [("d/n", "- [ ] a\r\n")] }

/-- The path of the note and that of a new one. -/
def notePaths : Set Text := {path | path = "d/n" ∨ path = "new"}

/-- The task in the note is checked, and the new note is looked for, written and read. -/
def noteSteps : List StoreStep :=
  [.rewrite ⟨"d/n", 0, 1, "a", "-", some " ", [], none, none, none, []⟩ ⟨"x", none⟩,
    .read "d/n", .read "new", .write "new" "text", .read "new"]

theorem runSteps_sameAnswers_note :
    OrdinaryPaths noteFiles notePaths ∧ SameDocuments noteFiles noteMemory notePaths ∧
      (∀ step ∈ noteSteps, step.path ∈ notePaths ∧ step.Forward) ∧
      List.Forall₂ SameAnswer (runSteps noteFiles noteSteps).1
        (runSteps noteMemory noteSteps).1 := by
  have hpaths : OrdinaryPaths noteFiles notePaths := {
    root := by decide
    plain := by rintro path (rfl | rfl) <;> decide
    apart := by rintro path (rfl | rfl) other (rfl | rfl) <;> decide
    parent := by rintro path (rfl | rfl) <;> rfl
    notDirectory := by rintro path (rfl | rfl) <;> exact nofun
    clear := by rintro path (rfl | rfl) <;> rfl
    short := by rintro path (rfl | rfl) <;> decide +kernel }
  have hsame : SameDocuments noteFiles noteMemory notePaths := by
    rintro path (rfl | rfl)
    · exact ⟨0, rfl⟩
    · rfl
  have hsteps : ∀ step ∈ noteSteps, step.path ∈ notePaths ∧ step.Forward := by
    have hnote : ['d', '/', 'n'] ∈ notePaths := Or.inl rfl
    have hnew : ['n', 'e', 'w'] ∈ notePaths := Or.inr rfl
    simp [noteSteps, StoreStep.path, StoreStep.Forward, hnote, hnew]
  exact ⟨hpaths, hsame, hsteps, (runSteps_sameAnswers hpaths hsame hsteps).1⟩

end NoteVault
