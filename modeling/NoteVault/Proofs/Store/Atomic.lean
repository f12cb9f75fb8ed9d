import Mathlib.Data.List.Induction
import NoteVault.Proofs.Store.Files

/-!
# Writes that touch one file

A write that succeeds should change one file, and a write that fails none. The document is first
written beside its location, and nothing asks whether there is a file already: it is overwritten,
and gone when the new one is moved or removed. That is the only file at stake. So a write touches
one file exactly if no file has the name that is used beside the document, or if the document is
to take the place of the root of the file system, beside which nothing is written.

In one direction this takes a tree in which every file stands in a directory. There a file beside
the document can always be overwritten, and so it is lost whether the write goes on to succeed or
fails at a directory. Where nothing can be written beside the document nothing stands there.

## Main results

* `FileTree.WellFormed.locate` — what stands in a tree is reached.
* `FileStore.replaceFile_of_clear` — a document is put where there is no file beside it.
* `FileStore.writesAlone_iff` — which writes touch one file only.
* `FileStore.write_loses_file` — a write that fails and removes a file.
-/

namespace NoteVault

namespace FileTree

variable {t : FileTree} {place : Location} {entry : FileEntry}

/-! ## Trees -/

/-- A location is a name in a directory, and a name that a file can have. -/
def holdsName (t : FileTree) (place : Location) : Bool :=
  (match t.entry? place.dropLast with
    | some .directory => true
    | _ => false) &&
  place.getLastD [] != ['.', '.'] &&
  (String.ofList (place.getLastD [])).utf8ByteSize ≤ maxNameBytes

/-- Everything stands in a directory. -/
def WellFormed (t : FileTree) : Prop := ∀ e ∈ t.entries, t.holdsName e.1

instance (t : FileTree) : Decidable t.WellFormed := by
  unfold WellFormed
  infer_instance

theorem holdsName_concat {above : Location} {name : Text} :
    t.holdsName (above ++ [name]) ↔ t.entry? above = some .directory ∧ name ≠ ['.', '.'] ∧
      (String.ofList name).utf8ByteSize ≤ maxNameBytes := by
  unfold holdsName
  rw [List.dropLast_concat, List.getLastD_concat, Bool.and_eq_true, Bool.and_eq_true, and_assoc,
    bne_iff_ne, decide_eq_true_iff]
  refine and_congr_left' ?_
  split <;> simp_all

theorem mem_of_lookup {entries : List (Location × FileEntry)}
    (h : entries.lookup place = some entry) : (place, entry) ∈ entries := by
  induction entries with
  | nil => cases h
  | cons first rest ih =>
      obtain ⟨q, e⟩ := first
      rw [lookup_cons_eq] at h
      split at h
      · next hq =>
          cases h
          rw [hq]
          exact List.mem_cons_self
      · exact List.mem_cons_of_mem _ (ih h)

/-- What stands in a tree has no two dots above it, and is reached. -/
theorem WellFormed.locate (ht : t.WellFormed) (h : t.entry? place = some entry) :
    ['.', '.'] ∉ place ∧ t.locate place = .ok entry := by
  induction place using List.reverseRecOn generalizing entry with
  | nil =>
      cases h
      exact ⟨List.not_mem_nil, rfl⟩
  | append_singleton above name ih =>
      rw [entry?_of_ne_nil t (by simp)] at h
      obtain ⟨habove, hname, hshort⟩ := holdsName_concat.mp (ht _ (mem_of_lookup h))
      obtain ⟨hdots, hlocate⟩ := ih habove
      refine ⟨by simp [hdots, Ne.symm hname], ?_⟩
      rw [locate_concat hdots hlocate hname hshort, entry?_of_ne_nil t (by simp), h]

/-- A file in a tree can be overwritten. -/
theorem WellFormed.writeBytes_of_hasFile (ht : t.WellFormed) (h : t.HasFile place)
    (bytes : ByteArray) : ∃ written, t.writeBytes place bytes = .ok written := by
  obtain ⟨old, modified, hentry⟩ := h
  refine ⟨_, writeBytes_of_hasParent (hasParent_of_locate (ht.locate hentry).2) ?_ bytes⟩
  rw [hentry]
  exact nofun

/-- Where a file is written there was no directory. -/
theorem ne_directory_of_writeBytes {bytes : ByteArray} {written : FileTree}
    (h : t.writeBytes place bytes = .ok written) : t.entry? place ≠ some .directory := by
  intro hentry
  unfold writeBytes at h
  cases hparent : t.hasParent place with
  | error fault => rw [hparent] at h; cases h
  | ok _ => rw [hparent, hentry] at h; cases h

end FileTree

namespace FileStore

open FileTree

variable {s : FileStore} {t : FileTree} {place : Location} {path text : Text}

/-! ## Writes -/

/-- What should hold of a write: if it succeeds its file has the text and all else is as it was,
and if it fails everything is. -/
def WritesAlone (s : FileStore) (path text : Text) : Prop :=
  match DocumentStore.write s path text with
  | (.ok (), after) => ∃ place, s.resolve path = .ok place ∧
      (∃ modified, after.tree.entry? place =
        some (.file (String.ofList text).toUTF8 modified)) ∧
      ∀ other, other ≠ place → after.tree.entry? other = s.tree.entry? other
  | (.error _, after) => ∀ other, after.tree.entry? other = s.tree.entry? other

/-- **Where there is no file beside its location**, a document is put there and all else stays, or
everything stays. -/
theorem replaceFile_of_clear (t : FileTree) (place : Location) (text : Text)
    (hclear : place ≠ [] → ¬ t.HasFile (besides place)) :
    (∃ t', replaceFile t place text = (.ok (), t') ∧ ∀ p, t'.entry? p =
      if p = place then some (.file (String.ofList text).toUTF8 t.now) else t.entry? p) ∨
    ∃ reason t', replaceFile t place text = (.error reason, t') ∧
      ∀ p, t'.entry? p = t.entry? p := by
  by_cases hplace : place = []
  · -- the root of the file system, where nothing is tried
    rw [hplace]
    exact Or.inr ⟨_, t, replaceFile_nil t text, fun _ => rfl⟩
  have hclear := hclear hplace
  cases hwrite : t.writeBytes (besides place) (String.ofList text).toUTF8 with
  | error fault => exact Or.inr (replaceFile_of_refused hplace hwrite hclear)
  | ok written =>
      have hnone : t.entry? (besides place) = none :=
        entry?_eq_none hclear (ne_directory_of_writeBytes hwrite)
      have hkept : ∀ p, (if p = besides place then none else t.entry? p) = t.entry? p := by
        intro p
        split
        · next hp => rw [hp, hnone]
        · rfl
      by_cases hentry : t.entry? place = some .directory
      · obtain ⟨reason, t', heq, hafter⟩ := replaceFile_onto_directory hplace hwrite hentry
        exact Or.inr ⟨reason, t', heq, fun p => (hafter p).trans (hkept p)⟩
      · obtain ⟨t', heq, hafter⟩ := replaceFile_of_written hplace hwrite hentry
        refine Or.inl ⟨t', heq, fun p => ?_⟩
        rw [hafter, hkept]

/-- **A write beside which there is no file touches one file.** -/
theorem writesAlone_of_clear (hclear : ∀ place, s.resolve path = .ok place → place ≠ [] →
    ¬ s.tree.HasFile (besides place)) : s.WritesAlone path text := by
  unfold WritesAlone
  cases hresolve : s.resolve path with
  | error reason => simp only [DocumentStore.write, hresolve, implies_true]
  | ok place =>
      rw [write_eq hresolve]
      rcases replaceFile_of_clear s.tree place text (hclear place hresolve) with
        ⟨t', heq, hafter⟩ | ⟨reason, t', heq, hsame⟩
      · rw [heq]
        refine ⟨place, rfl, ⟨s.tree.now, ?_⟩, fun other hother => ?_⟩
        · dsimp only
          rw [hafter, if_pos rfl]
        · dsimp only
          rw [hafter, if_neg hother]
      · rw [heq]
        exact hsame

/-- **A write beside which there is a file removes it.** -/
theorem not_hasFile_write (ht : s.tree.WellFormed) (hresolve : s.resolve path = .ok place)
    (hplace : place ≠ []) (hfile : s.tree.HasFile (besides place)) (text : Text) :
    ¬ (DocumentStore.write s path text).2.tree.HasFile (besides place) := by
  obtain ⟨written, hwrite⟩ := ht.writeBytes_of_hasFile hfile (String.ofList text).toUTF8
  rw [write_eq hresolve]
  rintro ⟨bytes, modified, hafter⟩
  dsimp only at hafter
  by_cases hentry : s.tree.entry? place = some .directory
  · obtain ⟨reason, t', heq, hentries⟩ := replaceFile_onto_directory hplace hwrite hentry
    rw [heq, hentries, if_pos rfl] at hafter
    cases hafter
  · obtain ⟨t', heq, hentries⟩ := replaceFile_of_written hplace hwrite hentry
    rw [heq, hentries, if_neg (besides_ne place), if_pos rfl] at hafter
    cases hafter

/-- A write that touches one file leaves every file beside it. -/
theorem WritesAlone.hasFile (h : s.WritesAlone path text) (hresolve : s.resolve path = .ok place)
    {other : Location} (hne : other ≠ place) (hfile : s.tree.HasFile other) :
    (DocumentStore.write s path text).2.tree.HasFile other := by
  unfold WritesAlone at h
  unfold HasFile at hfile ⊢
  split at h
  · next after heq =>
      obtain ⟨place', hresolve', _, hothers⟩ := h
      obtain rfl : place = place' := Except.ok.inj (hresolve.symm.trans hresolve')
      rw [heq, hothers other hne]
      exact hfile
  · next reason after heq =>
      rw [heq, h other]
      exact hfile

/-- **Which writes touch one file only**: those beside which there is no file, and those to the
root of the file system, which are refused. -/
theorem writesAlone_iff (s : FileStore) (path text : Text) (ht : s.tree.WellFormed) :
    s.WritesAlone path text ↔
      ∀ place, s.resolve path = .ok place → place ≠ [] → ¬ s.tree.HasFile (besides place) := by
  refine ⟨fun halone place hresolve hplace hfile => ?_, writesAlone_of_clear⟩
  exact not_hasFile_write ht hresolve hplace hfile text
    (halone.hasFile hresolve (besides_ne place) hfile)

/-- A vault with a directory and a file whose name is used beside it. -/
def draftStore : FileStore where
  tree := { entries := [(["vault"], .directory), (["vault", "d"], .directory),
    (["vault", "d.tmp"], .file "draft".toUTF8 0)] }
  root := ["vault"]

theorem writesAlone_iff_draft :
    draftStore.tree.WellFormed ∧ (draftStore.WritesAlone "d" "x" ↔
      ∀ place, draftStore.resolve "d" = .ok place → place ≠ [] →
        ¬ draftStore.tree.HasFile (besides place)) := by
  have ht : draftStore.tree.WellFormed := by decide +kernel
  exact ⟨ht, writesAlone_iff draftStore "d" "x" ht⟩

/-- **A write that fails and removes a file.** -/
theorem write_loses_file :
    (DocumentStore.write draftStore "d" "x").1 ≠ .ok () ∧
      draftStore.tree.HasFile ["vault", "d.tmp"] ∧
      ¬ (DocumentStore.write draftStore "d" "x").2.tree.HasFile ["vault", "d.tmp"] ∧
      ¬ draftStore.WritesAlone "d" "x" := by
  have hfailed : (DocumentStore.write draftStore "d" "x").1 ≠ .ok () := by decide +kernel
  have hgone : ((DocumentStore.write draftStore "d" "x").2.tree.entry?
      ["vault", "d.tmp"]).isNone := by decide +kernel
  have hresolve : draftStore.resolve "d" = .ok ["vault", "d"] := by decide +kernel
  have hfile : draftStore.tree.HasFile ["vault", "d.tmp"] := ⟨_, _, rfl⟩
  have hlost : ¬ (DocumentStore.write draftStore "d" "x").2.tree.HasFile ["vault", "d.tmp"] := by
    rintro ⟨bytes, modified, hentry⟩
    rw [hentry] at hgone
    cases hgone
  exact ⟨hfailed, hfile, hlost, fun halone =>
    hlost (halone.hasFile hresolve (by decide) hfile)⟩

end FileStore

end NoteVault
