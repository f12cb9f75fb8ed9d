import Mathlib.Data.List.Basic
import NoteVault.Proofs.Value.Lookup
import NoteVault.Store.Files

/-!
# What a file holds after a write

A write puts the document into a file beside it and moves that file over it. All that it touches
are these two locations. So a document that can be read can be read after a write: it is the text
written, or the text of before if the write has failed. What is elsewhere is as it was.

Locations are followed name by name, and two dots go up, so only without them a location is
reached through the locations above it and no others. The locations that paths lead to have none,
if that of the vault has none.

## Main results

* `FileTree.locate_of_above` — what is reached when nothing above it has changed.
* `FileStore.replaceFile_cases` — what putting a document at a location does.
* `FileStore.read_write` — what is read after a write.
-/

namespace NoteVault

/-! ## Entries -/

namespace FileTree

variable {t t' : FileTree} {place p : Location} {entry : FileEntry}

theorem putEntry_eq (place : Location) (entry : FileEntry)
    (entries : List (Location × FileEntry)) :
    putEntry place entry entries = putUnder place entry entries :=
  eq_putUnder (putEntry place entry) rfl (fun _ _ _ => rfl) entries

theorem lookup_filter_ne (place : Location) (entries : List (Location × FileEntry))
    (p : Location) :
    (entries.filter fun e => e.1 != place).lookup p =
      if p = place then none else entries.lookup p := by
  induction entries with
  | nil => exact (ite_self _).symm
  | cons first rest ih =>
      obtain ⟨q, e⟩ := first
      by_cases hq : q = place
      · rw [List.filter_cons_of_neg (by simp [hq]), ih, lookup_cons_eq, hq]
        by_cases hp : p = place
        · rw [if_pos hp, if_pos hp]
        · rw [if_neg hp, if_neg hp, if_neg hp]
      · rw [List.filter_cons_of_pos (by simp [hq]), lookup_cons_eq, lookup_cons_eq, ih]
        by_cases hp : p = place
        · rw [if_pos hp, if_neg (hp ▸ Ne.symm hq), if_pos hp]
        · rw [if_neg hp, if_neg hp]

theorem entry?_of_ne_nil (t : FileTree) (h : p ≠ []) : t.entry? p = t.entries.lookup p := by
  unfold entry?
  rw [if_neg (by simpa using h)]

/-- **What stands where after an entry was put at a location.** -/
theorem entry?_put (t : FileTree) (hplace : place ≠ []) (entry : FileEntry) (p : Location) :
    entry? (t.put place entry) p = if p = place then some entry else t.entry? p := by
  by_cases hp : p = []
  · rw [hp, if_neg (Ne.symm hplace)]
    rfl
  · rw [entry?_of_ne_nil _ hp, entry?_of_ne_nil _ hp]
    unfold put
    rw [putEntry_eq]
    exact lookup_putUnder place entry t.entries p

/-- **What stands where after a location was cleared.** -/
theorem entry?_erase (t : FileTree) (hplace : place ≠ []) (p : Location) :
    entry? (t.erase place) p = if p = place then none else t.entry? p := by
  by_cases hp : p = []
  · rw [hp, if_neg (Ne.symm hplace)]
    rfl
  · rw [entry?_of_ne_nil _ hp, entry?_of_ne_nil _ hp]
    exact lookup_filter_ne place t.entries p

/-! ## Following a location -/

/-- What a location without two dots leads to stands there. -/
theorem entry?_of_locateFrom {walked names : List Text} (hdots : ['.', '.'] ∉ names)
    (h : t.locateFrom walked names = .ok entry) : t.entry? (walked ++ names) = some entry := by
  induction names generalizing walked with
  | nil =>
      rw [locateFrom] at h
      rw [List.append_nil]
      split at h
      · next hentry => cases h; exact hentry
      · cases h
  | cons name rest ih =>
      rw [List.mem_cons, not_or] at hdots
      rw [locateFrom] at h
      rw [List.append_cons]
      split at h
      · cases h
      · cases h
      · split at h
        · cases h
        · rw [if_neg (Ne.symm hdots.1)] at h
          exact ih hdots.2 h

/-- Above what names lead to there are directories. -/
theorem entry?_above_of_locateFrom {walked names front : List Text} (hdots : ['.', '.'] ∉ names)
    (h : t.locateFrom walked names = .ok entry) (hfront : front <+: names) (hne : front ≠ names) :
    t.entry? (walked ++ front) = some .directory := by
  induction names generalizing walked front with
  | nil => exact absurd (List.prefix_nil.mp hfront) hne
  | cons name rest ih =>
      rw [List.mem_cons, not_or] at hdots
      rw [locateFrom] at h
      split at h
      · cases h
      · cases h
      · next hwalked =>
          cases front with
          | nil => rwa [List.append_nil]
          | cons first front =>
              obtain ⟨rfl, hrest⟩ := List.cons_prefix_cons.mp hfront
              split at h
              · cases h
              · rw [if_neg (Ne.symm hdots.1)] at h
                rw [List.append_cons]
                exact ih hdots.2 h hrest fun heq => hne (by rw [heq])

/-- What names lead to when nothing above it has changed. -/
theorem locateFrom_of_above {walked names : List Text} {entry' : FileEntry}
    (hdots : ['.', '.'] ∉ names) (h : t.locateFrom walked names = .ok entry)
    (habove : ∀ front, front <+: names → front ≠ names →
      t'.entry? (walked ++ front) = t.entry? (walked ++ front))
    (hself : t'.entry? (walked ++ names) = some entry') :
    t'.locateFrom walked names = .ok entry' := by
  induction names generalizing walked with
  | nil =>
      rw [List.append_nil] at hself
      rw [locateFrom, hself]
  | cons name rest ih =>
      have hwalked := habove [] List.nil_prefix (List.cons_ne_nil _ _).symm
      rw [List.append_nil] at hwalked
      rw [List.mem_cons, not_or] at hdots
      rw [locateFrom] at h
      rw [locateFrom, hwalked]
      cases hentry : t.entry? walked with
      | none => rw [hentry] at h; cases h
      | some found =>
          cases found with
          | file bytes modified => rw [hentry] at h; cases h
          | directory =>
              rw [hentry] at h
              dsimp only at h ⊢
              split at h
              · cases h
              · next hshort =>
                  rw [if_neg (Ne.symm hdots.1)] at h
                  rw [if_neg hshort, if_neg (Ne.symm hdots.1)]
                  refine ih hdots.2 h (fun front hfront hne => ?_) (by rwa [← List.append_cons])
                  rw [← List.append_cons]
                  exact habove (name :: front) ((List.prefix_cons_inj name).mpr hfront)
                    fun heq => hne (List.cons.inj heq).2

theorem entry?_of_locate (hdots : ['.', '.'] ∉ place) (h : t.locate place = .ok entry) :
    t.entry? place = some entry :=
  entry?_of_locateFrom hdots h

theorem entry?_above_of_locate {front : Location} (hdots : ['.', '.'] ∉ place)
    (h : t.locate place = .ok entry) (hfront : front <+: place) (hne : front ≠ place) :
    t.entry? front = some .directory :=
  entry?_above_of_locateFrom hdots h hfront hne

/-- **What is reached when nothing above it has changed.** -/
theorem locate_of_above {entry' : FileEntry} (hdots : ['.', '.'] ∉ place)
    (h : t.locate place = .ok entry)
    (habove : ∀ front, front <+: place → front ≠ place → t'.entry? front = t.entry? front)
    (hself : t'.entry? place = some entry') : t'.locate place = .ok entry' :=
  locateFrom_of_above hdots h habove hself

/-- What one name more leads to from a directory. -/
theorem locateFrom_concat {walked names : List Text} {name : Text} (hdots : ['.', '.'] ∉ names)
    (h : t.locateFrom walked names = .ok .directory) (hname : name ≠ ['.', '.'])
    (hshort : (String.ofList name).utf8ByteSize ≤ maxNameBytes) :
    t.locateFrom walked (names ++ [name]) = match t.entry? (walked ++ names ++ [name]) with
      | some entry => .ok entry
      | none => .error .missing := by
  induction names generalizing walked with
  | nil =>
      have hentry := entry?_of_locateFrom hdots h
      rw [List.append_nil] at hentry
      rw [List.nil_append, List.append_nil, locateFrom, hentry]
      dsimp only
      rw [if_neg (Nat.not_lt.mpr hshort), if_neg hname]
      unfold locateFrom
      cases t.entry? (walked ++ [name]) <;> rfl
  | cons first rest ih =>
      rw [List.mem_cons, not_or] at hdots
      rw [locateFrom] at h
      rw [List.cons_append, locateFrom, List.append_cons walked first rest]
      split at h
      · cases h
      · cases h
      · split at h
        · cases h
        · next hfirst =>
            rw [if_neg (Ne.symm hdots.1)] at h
            rw [if_neg hfirst, if_neg (Ne.symm hdots.1)]
            exact ih hdots.2 h

/-- **What is reached in a directory** is what stands there. -/
theorem locate_concat {above : Location} {name : Text} (hdots : ['.', '.'] ∉ above)
    (h : t.locate above = .ok .directory) (hname : name ≠ ['.', '.'])
    (hshort : (String.ofList name).utf8ByteSize ≤ maxNameBytes) :
    t.locate (above ++ [name]) = match t.entry? (above ++ [name]) with
      | some entry => .ok entry
      | none => .error .missing :=
  locateFrom_concat hdots h hname hshort

/-- The text of a file that was written from a text. -/
theorem readText_of_locate {text : Text} {modified : Int}
    (h : t.locate place = .ok (.file (String.ofList text).toUTF8 modified)) :
    t.readText place = .ok text := by
  have hdecode : String.fromUTF8? (String.ofList text).toUTF8 = some (String.ofList text) :=
    dif_pos (String.ofList text).isValidUTF8
  unfold readText readFile
  rw [h]
  dsimp only [bind, Except.bind, Except.mapError, pure, Except.pure]
  rw [hdecode]
  simp

/-- A text is read from a file. -/
theorem exists_locate_of_readText {text : Text} (h : t.readText place = .ok text) :
    ∃ bytes modified, t.locate place = .ok (.file bytes modified) := by
  unfold readText readFile at h
  cases hlocate : t.locate place with
  | error fault => rw [hlocate] at h; cases h
  | ok entry =>
      rw [hlocate] at h
      cases entry with
      | directory => cases h
      | file bytes modified => exact ⟨bytes, modified, rfl⟩

theorem readText_congr (h : t'.locate place = t.locate place) :
    t'.readText place = t.readText place := by
  unfold readText readFile
  rw [h]

/-- A file stands at a location. -/
def HasFile (t : FileTree) (place : Location) : Prop :=
  ∃ bytes modified, t.entry? place = some (.file bytes modified)

theorem entry?_eq_none (hfile : ¬ t.HasFile place) (hdirectory : t.entry? place ≠ some .directory) :
    t.entry? place = none := by
  cases hentry : t.entry? place with
  | none => rfl
  | some found =>
      cases found with
      | directory => exact absurd hentry hdirectory
      | file bytes modified => exact absurd ⟨bytes, modified, hentry⟩ hfile

/-! ## Single steps -/

/-- The tree after a file was written. -/
theorem writeBytes_eq_ok {bytes : ByteArray} (h : t.writeBytes place bytes = .ok t') :
    t' = t.put place (.file bytes t.now) := by
  unfold writeBytes at h
  cases hparent : t.hasParent place with
  | error fault => rw [hparent] at h; cases h
  | ok _ =>
      rw [hparent] at h
      dsimp only [bind, Except.bind] at h
      split at h
      · cases h
      · cases h
        rfl

/-- The directory that holds a location is there if the location is, or if only the last name
of it is missing. -/
theorem hasParent_of_locate (h : t.locate place = .ok entry) : t.hasParent place = .ok () := by
  unfold hasParent
  rw [h]

theorem hasParent_of_missing (h : t.locate place = .error .missing)
    (habove : t.locate place.dropLast = .ok .directory) : t.hasParent place = .ok () := by
  unfold hasParent
  rw [h, habove]

/-- A file is written where there is a directory to hold it and none in its place. -/
theorem writeBytes_of_hasParent (hparent : t.hasParent place = .ok ())
    (hentry : t.entry? place ≠ some .directory) (bytes : ByteArray) :
    t.writeBytes place bytes = .ok (t.put place (.file bytes t.now)) := by
  unfold writeBytes
  rw [hparent]
  dsimp only [Bind.bind, Except.bind]
  split
  · next hdirectory => exact absurd hdirectory hentry
  · rfl

/-- A file is moved to where there is no directory. -/
theorem rename_of_ne {source target : Location} (hsource : t.entry? source = some entry)
    (htarget : t.entry? target ≠ some .directory) :
    t.rename source target = .ok ((t.erase source).put target entry) := by
  unfold rename
  rw [hsource]
  split
  · next hdirectory => exact absurd hdirectory htarget
  · next hentry _ =>
      cases hentry
      rfl
  · next hnone => cases hnone

theorem rename_onto_directory {source target : Location} (hsource : t.entry? source = some entry)
    (htarget : t.entry? target = some .directory) :
    t.rename source target = .error .isDirectory := by
  unfold rename
  rw [hsource, htarget]
  rfl

end FileTree

/-! ## Documents -/

namespace FileStore

open FileTree

variable {t t' : FileTree} {place p : Location} {text : Text}

theorem besides_concat (above : Location) (name : Text) :
    besides (above ++ [name]) = above ++ [name ++ ".tmp"] := by
  unfold besides
  rw [List.dropLast_concat, List.getLastD_concat]

theorem besides_ne_nil (place : Location) : besides place ≠ [] := by
  simp [besides]

theorem length_besides (hplace : place ≠ []) : (besides place).length = place.length := by
  obtain ⟨above, name, rfl⟩ := (List.eq_nil_or_concat' place).resolve_left hplace
  rw [besides_concat]
  simp

theorem besides_ne (place : Location) : besides place ≠ place := by
  obtain rfl | ⟨above, name, rfl⟩ := List.eq_nil_or_concat' place
  · exact besides_ne_nil []
  · rw [besides_concat]
    simp

/-- Cleaning up reports a failure, and touches the location beside the document only. -/
theorem cleanUp_cases (t : FileTree) {beside : Location} (hbeside : beside ≠ [])
    (reason : StoreError) :
    ∃ reason' t', cleanUp t beside reason = (.error reason', t') ∧
      ∀ p, p ≠ beside → t'.entry? p = t.entry? p := by
  unfold cleanUp
  split
  · exact ⟨_, t, rfl, fun _ _ => rfl⟩
  · refine ⟨_, _, rfl, fun p hp => ?_⟩
    rw [entry?_erase t hbeside, if_neg hp]

/-- What stands where after a document was written beside its location. -/
theorem entry?_written {written : FileTree}
    (hwrite : t.writeBytes (besides place) (String.ofList text).toUTF8 = .ok written)
    (p : Location) :
    written.entry? p = if p = besides place then
      some (.file (String.ofList text).toUTF8 t.now) else t.entry? p := by
  rw [writeBytes_eq_ok hwrite]
  exact entry?_put t (besides_ne_nil place) _ p

/-- Nothing is put in the place of the root of the file system. -/
theorem replaceFile_nil (t : FileTree) (text : Text) :
    replaceFile t [] text = (.error .unnamed, t) := rfl

/-- A document that can be written beside its location is moved there, unless there is a
directory. -/
theorem replaceFile_of_written (hplace : place ≠ []) {written : FileTree}
    (hwrite : t.writeBytes (besides place) (String.ofList text).toUTF8 = .ok written)
    (hentry : t.entry? place ≠ some .directory) :
    ∃ t', replaceFile t place text = (.ok (), t') ∧ ∀ p, t'.entry? p =
      if p = place then some (.file (String.ofList text).toUTF8 t.now)
      else if p = besides place then none else t.entry? p := by
  have hsource := entry?_written hwrite (besides place)
  have htarget := entry?_written hwrite place
  rw [if_pos rfl] at hsource
  rw [if_neg (Ne.symm (besides_ne place))] at htarget
  rw [replaceFile, if_neg hplace]
  dsimp only
  rw [hwrite]
  dsimp only
  rw [rename_of_ne hsource (htarget ▸ hentry)]
  refine ⟨_, rfl, fun p => ?_⟩
  rw [entry?_put _ hplace, entry?_erase _ (besides_ne_nil place), entry?_written hwrite]
  by_cases hp : p = besides place
  · rw [if_pos hp, if_pos hp]
  · rw [if_neg hp, if_neg hp, if_neg hp]

/-- A document for whose location there is a directory is removed again from beside it. -/
theorem replaceFile_onto_directory (hplace : place ≠ []) {written : FileTree}
    (hwrite : t.writeBytes (besides place) (String.ofList text).toUTF8 = .ok written)
    (hentry : t.entry? place = some .directory) :
    ∃ reason t', replaceFile t place text = (.error reason, t') ∧
      ∀ p, t'.entry? p = if p = besides place then none else t.entry? p := by
  have hsource := entry?_written hwrite (besides place)
  have htarget := entry?_written hwrite place
  rw [if_pos rfl] at hsource
  rw [if_neg (Ne.symm (besides_ne place)), hentry] at htarget
  rw [replaceFile, if_neg hplace]
  dsimp only
  rw [hwrite]
  dsimp only
  rw [rename_onto_directory hsource htarget]
  unfold cleanUp
  dsimp only
  rw [hsource]
  refine ⟨_, _, rfl, fun p => ?_⟩
  rw [entry?_erase written (besides_ne_nil place), entry?_written hwrite]
  split <;> rfl

/-- If a document cannot be written beside its location and there was no file, nothing changes. -/
theorem replaceFile_of_refused (hplace : place ≠ []) {fault : FileFault}
    (hwrite : t.writeBytes (besides place) (String.ofList text).toUTF8 = .error fault)
    (hclear : ¬ t.HasFile (besides place)) :
    ∃ reason t', replaceFile t place text = (.error reason, t') ∧
      ∀ p, t'.entry? p = t.entry? p := by
  rw [replaceFile, if_neg hplace]
  dsimp only
  rw [hwrite]
  dsimp only
  unfold cleanUp
  split
  · exact ⟨_, t, rfl, fun _ => rfl⟩
  · next hdirectory =>
      have hnone : t.entry? (besides place) = none := entry?_eq_none hclear hdirectory
      refine ⟨_, _, rfl, fun p => ?_⟩
      rw [entry?_erase t (besides_ne_nil place)]
      split
      · next hp => rw [hp, hnone]
      · rfl

/-- **What putting a document at a location does.** Either the file has its bytes and the
location beside it is clear, or the write has failed and nothing but the location beside it was
touched. -/
theorem replaceFile_cases (t : FileTree) (hplace : place ≠ []) (text : Text) :
    (∃ t', replaceFile t place text = (.ok (), t') ∧ ∀ p, t'.entry? p =
      if p = place then some (.file (String.ofList text).toUTF8 t.now)
      else if p = besides place then none else t.entry? p) ∨
    ∃ reason t', replaceFile t place text = (.error reason, t') ∧
      ∀ p, p ≠ besides place → t'.entry? p = t.entry? p := by
  cases hwrite : t.writeBytes (besides place) (String.ofList text).toUTF8 with
  | error fault =>
      rw [replaceFile, if_neg hplace]
      dsimp only
      rw [hwrite]
      exact Or.inr (cleanUp_cases t (besides_ne_nil place) _)
  | ok written =>
      by_cases hentry : t.entry? place = some .directory
      · obtain ⟨reason, t', heq, hafter⟩ := replaceFile_onto_directory hplace hwrite hentry
        exact Or.inr ⟨reason, t', heq, fun p hp => by rw [hafter, if_neg hp]⟩
      · exact Or.inl (replaceFile_of_written hplace hwrite hentry)

/-- Only the document and what is beside it are touched. -/
theorem entry?_replaceFile_of_ne (t : FileTree) (hplace : place ≠ []) (text : Text)
    (hp : p ≠ place) (hbeside : p ≠ besides place) :
    entry? (replaceFile t place text).2 p = t.entry? p := by
  rcases replaceFile_cases t hplace text with ⟨t', heq, hentry⟩ | ⟨reason, t', heq, hentry⟩
  · rw [heq]
    dsimp only
    rw [hentry, if_neg hp, if_neg hbeside]
  · rw [heq]
    exact hentry p hbeside

/-- **What is read from a file that a document was put into**: the document, or what was read
before if that has failed. -/
theorem readText_replaceFile {old : Text} (hdots : ['.', '.'] ∉ place)
    (hold : t.readText place = .ok old) (text : Text) :
    (replaceFile t place text).2.readText place =
      .ok (match (replaceFile t place text).1 with
        | .ok () => text
        | .error _ => old) := by
  obtain ⟨bytes, modified, hlocate⟩ := exists_locate_of_readText hold
  have hself := entry?_of_locate hdots hlocate
  have hplace : place ≠ [] := by
    rintro rfl
    cases hself
  have habove : ∀ front, front <+: place → front ≠ place →
      entry? (replaceFile t place text).2 front = t.entry? front := by
    intro front hfront hne
    refine entry?_replaceFile_of_ne t hplace text hne fun heq => ?_
    -- what is beside the document is as far down as the document
    exact hne (hfront.eq_of_length (by rw [heq, length_besides hplace]))
  rcases replaceFile_cases t hplace text with ⟨t', heq, hentry⟩ | ⟨reason, t', heq, hentry⟩
  · rw [heq] at habove ⊢
    have hself' : t'.entry? place = some (.file (String.ofList text).toUTF8 t.now) := by
      rw [hentry, if_pos rfl]
    exact readText_of_locate (locate_of_above hdots hlocate habove hself')
  · rw [heq] at habove ⊢
    have hself' : t'.entry? place = some (.file bytes modified) := by
      rw [hentry place (Ne.symm (besides_ne place)), hself]
    have hsame : t'.locate place = t.locate place := by
      rw [hlocate, locate_of_above hdots hlocate habove hself']
    exact (readText_congr hsame).trans hold

/-! ## Paths -/

theorem dots_not_mem_followNames {names : List Text} {start : Location}
    (h : ['.', '.'] ∉ start) : ['.', '.'] ∉ followNames start names := by
  induction names generalizing start with
  | nil => exact h
  | cons name rest ih =>
      rw [followNames]
      split
      · exact ih h
      · split
        · exact ih fun hmem => h (List.dropLast_subset start hmem)
        · next hname => exact ih (by simp [h, Ne.symm hname])

variable {s : FileStore} {path : Text}

/-- The location of a document has no two dots, if that of the vault has none. -/
theorem dots_not_mem_of_resolve (hroot : ['.', '.'] ∉ s.root) (h : s.resolve path = .ok place) :
    ['.', '.'] ∉ place := by
  unfold resolve at h
  split at h
  · cases h
  · dsimp only at h
    split at h
    · cases h
      unfold resolvePath
      split
      · exact dots_not_mem_followNames List.not_mem_nil
      · exact dots_not_mem_followNames hroot
    · cases h

/-! ## Reading after writing -/

/-- A document is read from the file at its location. -/
theorem read_eq_ok (h : (DocumentStore.read s path).1 = .ok text) :
    ∃ place, s.resolve path = .ok place ∧ s.tree.readText place = .ok text := by
  cases hresolve : s.resolve path with
  | error reason =>
      simp only [DocumentStore.read, hresolve] at h
      cases h
  | ok place =>
      simp only [DocumentStore.read, hresolve] at h
      exact ⟨place, rfl, h⟩

/-- A document is written by putting it at its location. -/
theorem write_eq (hresolve : s.resolve path = .ok place) (text : Text) :
    DocumentStore.write s path text = ((replaceFile s.tree place text).1,
      { s with tree := (replaceFile s.tree place text).2 }) := by
  simp only [DocumentStore.write, hresolve]

/-- **What is read after a write**: the text written, or the text of before if the write has
failed. -/
theorem read_write {old : Text} (hroot : ['.', '.'] ∉ s.root)
    (hread : (DocumentStore.read s path).1 = .ok old) (text : Text) :
    (DocumentStore.read (DocumentStore.write s path text).2 path).1 =
      .ok (match (DocumentStore.write s path text).1 with
        | .ok () => text
        | .error _ => old) := by
  obtain ⟨place, hresolve, hold⟩ := read_eq_ok hread
  have hresolve' : FileStore.resolve { s with tree := (replaceFile s.tree place text).2 } path =
      .ok place := hresolve
  rw [write_eq hresolve]
  simp only [DocumentStore.read, hresolve']
  exact readText_replaceFile (dots_not_mem_of_resolve hroot hresolve) hold text

theorem root_write (s : FileStore) (path text : Text) :
    (DocumentStore.write s path text).2.root = s.root := by
  simp only [DocumentStore.write]
  split <;> rfl

end FileStore

end NoteVault
