import NoteVault.Proofs.Store.Files
import NoteVault.Proofs.Text.Lines

/-!
# Plain paths

A path is plain if it says where its document is and nothing else: names that are divided by
single slashes, no dots that stay or go up, no slash in front. A plain path leads to the names in
it, below the root of the vault. So different plain paths lead to different locations, and the
location beside a document is that of the path with `.tmp` behind.

A document can be put where there is a directory for it and where the file beside it can have its
name. What a read and a write do there can be said without following a location.

## Main results

* `resolvePath_of_plain` — the location that a plain path leads to.
* `besides_eq_resolvePath_iff` — when a document stands beside another one.
* `FileStore.read_of_file`, `FileStore.read_of_none` — what is read from a place for a document.
* `FileStore.write_of_place` — what is written to it.
-/

namespace NoteVault

open Text

/-! ## Paths -/

/-- The names in a path lead down, one after the other. -/
def PlainPath (path : Text) : Prop :=
  '\x00' ∉ path ∧ ∀ name ∈ splitOn '/' path, name ≠ [] ∧ name ≠ ['.'] ∧ name ≠ ['.', '.']

instance (path : Text) : Decidable (PlainPath path) := by
  unfold PlainPath
  infer_instance

/-- A text that is put behind another one goes to the last piece of it. -/
theorem splitOn_append {sep : Char} {s t last : Text} {front : List Text} (ht : sep ∉ t)
    (h : splitOn sep s = front ++ [last]) : splitOn sep (s ++ t) = front ++ [last ++ t] := by
  unfold splitOn at h ⊢
  fun_induction splitWhere (· = sep) s generalizing front last with
  | case1 =>
      obtain ⟨rfl, hlast⟩ := List.append_eq_singleton_iff.mp h.symm |>.resolve_right (by simp)
      cases hlast
      exact splitOn_of_not_mem ht
  | case2 c rest hc ih =>
      cases front with
      | nil => exact absurd (List.cons.inj h).2 (splitWhere_ne_nil _ rest)
      | cons first front =>
          obtain ⟨rfl, hrest⟩ := List.cons.inj h
          rw [List.cons_append, splitWhere, if_pos hc, ih hrest]
          rfl
  | case3 c rest hc hnil => exact absurd ‹_› (splitWhere_ne_nil _ rest)
  | case4 c rest hc piece pieces hrest ih =>
      rw [List.cons_append, splitWhere, if_neg hc]
      cases front with
      | nil =>
          obtain ⟨rfl, rfl⟩ := List.cons.inj h
          have hback : splitWhere (· = sep) (rest ++ t) = [] ++ [piece ++ t] := ih hrest
          rw [hback]
          rfl
      | cons first front =>
          obtain ⟨rfl, rfl⟩ := List.cons.inj h
          have hback : splitWhere (· = sep) (rest ++ t) = (piece :: front) ++ [last ++ t] :=
            ih hrest
          rw [hback]
          rfl

theorem splitOn_inj {sep : Char} {s t : Text} (h : splitOn sep s = splitOn sep t) : s = t := by
  rw [← joinWith_splitOn sep s, h, joinWith_splitOn]

/-- Names that lead down are put behind a location. -/
theorem followNames_of_plain {names : List Text} {start : Location}
    (h : ∀ name ∈ names, name ≠ [] ∧ name ≠ ['.'] ∧ name ≠ ['.', '.']) :
    followNames start names = start ++ names := by
  induction names generalizing start with
  | nil => exact (List.append_nil start).symm
  | cons name rest ih =>
      obtain ⟨hempty, hdot, hdots⟩ := h name List.mem_cons_self
      rw [followNames, if_neg (by simp [hempty, hdot]), if_neg hdots,
        ih fun name hname => h name (List.mem_cons_of_mem _ hname), ← List.append_cons]

/-- **The location that a plain path leads to.** -/
theorem resolvePath_of_plain {path : Text} (h : PlainPath path) (root : Location) :
    resolvePath root path = root ++ splitOn '/' path := by
  have hhead : path.head? ≠ some '/' := by
    intro hhead
    obtain ⟨rest, rfl⟩ : ∃ rest, path = '/' :: rest := by
      cases path with
      | nil => cases hhead
      | cons c rest => exact ⟨rest, by rw [Option.some.inj hhead]⟩
    exact (h.2 [] (by simp [splitOn, splitWhere])).1 rfl
  unfold resolvePath
  rw [if_neg hhead, followNames_of_plain h.2]

section

variable {root : Location} {path other : Text}

/-- The last name in a path, and what is above it. -/
theorem exists_resolvePath_eq (h : PlainPath path) (root : Location) :
    ∃ front name, splitOn '/' path = front ++ [name] ∧
      resolvePath root path = root ++ front ++ [name] := by
  obtain ⟨front, name, hsplit⟩ := List.eq_nil_or_concat' (splitOn '/' path)
    |>.resolve_left (splitWhere_ne_nil _ path)
  refine ⟨front, name, hsplit, ?_⟩
  rw [resolvePath_of_plain h, hsplit, List.append_assoc]

theorem resolvePath_ne_nil (h : PlainPath path) : resolvePath root path ≠ [] := by
  obtain ⟨front, name, _, hplace⟩ := exists_resolvePath_eq h root
  rw [hplace]
  simp

/-- **Different plain paths lead to different locations.** -/
theorem resolvePath_inj (h : PlainPath path) (hother : PlainPath other) :
    resolvePath root path = resolvePath root other ↔ path = other := by
  rw [resolvePath_of_plain h, resolvePath_of_plain hother, List.append_cancel_left_eq]
  exact ⟨splitOn_inj, congrArg _⟩

/-- **When a document stands beside another one.** -/
theorem besides_eq_resolvePath_iff (h : PlainPath path) (hother : PlainPath other) :
    FileStore.besides (resolvePath root path) = resolvePath root other ↔
      path ++ ".tmp" = other := by
  obtain ⟨front, name, hsplit, hplace⟩ := exists_resolvePath_eq h root
  have hbehind : splitOn '/' (path ++ ".tmp") = front ++ [name ++ ".tmp"] :=
    splitOn_append (by decide) hsplit
  rw [hplace, FileStore.besides_concat, List.append_assoc, ← hbehind,
    resolvePath_of_plain hother, List.append_cancel_left_eq]
  exact ⟨splitOn_inj, congrArg _⟩

/-- A plain path leads into the vault. -/
theorem FileStore.resolve_of_plain (s : FileStore) (h : PlainPath path) :
    s.resolve path = .ok (resolvePath s.root path) := by
  unfold resolve
  rw [if_neg (by simpa using h.1)]
  dsimp only
  rw [if_pos]
  rw [resolvePath_of_plain h, List.isPrefixOf_iff_prefix]
  exact List.prefix_append _ _

theorem dots_not_mem_resolvePath (h : PlainPath path) (hroot : ['.', '.'] ∉ root) :
    ['.', '.'] ∉ resolvePath root path := by
  rw [resolvePath_of_plain h, List.mem_append, not_or]
  exact ⟨hroot, fun hmem => (h.2 _ hmem).2.2 rfl⟩

end

/-! ## Places for documents -/

/-- A document can be put at a location: there is a directory for it, and the file beside it can
have its name. -/
structure FileTree.HasPlace (t : FileTree) (place : Location) : Prop where
  /-- No name in the location goes up. -/
  dots : ['.', '.'] ∉ place
  /-- The location is not the root of all files. -/
  ne_nil : place ≠ []
  /-- The directory is there. -/
  parent : t.locate place.dropLast = .ok .directory
  /-- The name of the file beside it is not too long. -/
  short : (String.ofList (place.getLastD [] ++ ".tmp")).utf8ByteSize ≤ maxNameBytes

namespace FileTree.HasPlace

variable {t : FileTree} {place : Location}

/-- What is at the location is reached. -/
theorem locate (h : t.HasPlace place) : t.locate place = match t.entry? place with
    | some entry => .ok entry
    | none => .error .missing := by
  obtain ⟨above, name, rfl⟩ := (List.eq_nil_or_concat' place).resolve_left h.ne_nil
  have hdots := h.dots
  have hshort := h.short
  rw [List.mem_append, not_or] at hdots
  rw [List.getLastD_concat, String.ofList_append, String.utf8ByteSize_append] at hshort
  refine locate_concat hdots.1 ?_ (fun hname => hdots.2 (by simp [hname])) (by omega)
  rw [← h.parent, List.dropLast_concat]

/-- The document can be written beside the location if there is nothing. -/
theorem hasParent_besides (h : t.HasPlace place)
    (hclear : t.entry? (FileStore.besides place) = none) :
    t.hasParent (FileStore.besides place) = .ok () := by
  obtain ⟨above, name, rfl⟩ := (List.eq_nil_or_concat' place).resolve_left h.ne_nil
  have hdots := h.dots
  have hparent := h.parent
  have hshort := h.short
  rw [List.mem_append, not_or] at hdots
  rw [List.dropLast_concat] at hparent
  rw [List.getLastD_concat] at hshort
  rw [FileStore.besides_concat] at hclear ⊢
  have hname : name ++ (".tmp" : Text) ≠ ['.', '.'] := fun hname =>
    absurd (congrArg List.length hname) (by simp)
  refine hasParent_of_missing ?_ (by rw [List.dropLast_concat, hparent])
  rw [locate_concat hdots.1 hparent hname hshort, hclear]

end FileTree.HasPlace

namespace FileStore

open FileTree

variable {s : FileStore} {place : Location} {path text : Text}

/-- A file is read. -/
theorem read_of_file {modified : Int} (hresolve : s.resolve path = .ok place)
    (hplace : s.tree.HasPlace place)
    (hentry : s.tree.entry? place = some (.file (String.ofList text).toUTF8 modified)) :
    DocumentStore.read s path = (.ok text, s) := by
  have hlocate := hplace.locate
  rw [hentry] at hlocate
  refine Prod.ext ?_ rfl
  simp only [DocumentStore.read, hresolve]
  exact readText_of_locate hlocate

/-- Where there is no file, none is read. -/
theorem read_of_none (hresolve : s.resolve path = .ok place) (hplace : s.tree.HasPlace place)
    (hentry : s.tree.entry? place = none) :
    DocumentStore.read s path = (.error (.file .missing (locationPath place) none), s) := by
  have hlocate := hplace.locate
  rw [hentry] at hlocate
  refine Prod.ext ?_ rfl
  simp only [DocumentStore.read, hresolve]
  show s.tree.readText place = _
  unfold readText readFile
  rw [hlocate]
  rfl

/-- **A document is written**, and all else stays, if nothing is beside it. -/
theorem write_of_place (hresolve : s.resolve path = .ok place) (hplace : s.tree.HasPlace place)
    (hclear : s.tree.entry? (besides place) = none)
    (hentry : s.tree.entry? place ≠ some .directory) (text : Text) :
    ∃ t', DocumentStore.write s path text = (.ok (), { s with tree := t' }) ∧
      ∀ p, t'.entry? p = if p = place then some (.file (String.ofList text).toUTF8 s.tree.now)
        else s.tree.entry? p := by
  have hwrite := writeBytes_of_hasParent (hplace.hasParent_besides hclear)
    (by rw [hclear]; exact nofun) (String.ofList text).toUTF8
  obtain ⟨t', heq, hafter⟩ := replaceFile_of_written hplace.ne_nil hwrite hentry
  refine ⟨t', by rw [write_eq hresolve, heq], fun p => ?_⟩
  rw [hafter]
  split
  · rfl
  · split
    · next hp => rw [hp, hclear]
    · rfl

end FileStore

end NoteVault
