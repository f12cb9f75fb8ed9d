import NoteVault.Proofs.Store.Files
import NoteVault.Settings.Load

/-!
# Settings stay when a document is written

A write touches the document and the file beside it. The file beside a document has a name that
ends with `.tmp`, so it is not the file with the settings, and as both are files none of them is
above it. So a vault has its settings as long as its documents are other files.

## Main results

* `Settings.load_write` — settings that were loaded are loaded after a write.
-/

namespace NoteVault

open FileTree FileStore

variable {t : FileTree} {root place : Location} {settings : Settings} {old : Text}

/-- A file that is beside a document is none with settings. -/
theorem FileStore.besides_ne_settings (hplace : place ≠ []) (root : Location) :
    besides place ≠ root ++ [Settings.fileName] := by
  obtain ⟨above, name, rfl⟩ := (List.eq_nil_or_concat' place).resolve_left hplace
  rw [besides_concat]
  intro heq
  have hname : name ++ ".tmp".toList = Settings.fileName := by
    have hlast := congrArg List.getLast? heq
    simpa using hlast
  have hend := congrArg List.getLast? hname
  rw [List.getLast?_append] at hend
  cases hend

/-- Settings other than the default ones are in a file. -/
theorem Settings.exists_locate_of_load (h : Settings.load t root = .ok settings)
    (hne : settings ≠ .default) :
    ∃ entry, t.locate (root ++ [Settings.fileName]) = .ok entry := by
  cases hlocate : t.locate (root ++ [Settings.fileName]) with
  | ok entry => exact ⟨entry, rfl⟩
  | error fault =>
      unfold Settings.load Settings.load? at h
      dsimp only at h
      rw [hlocate] at h
      cases h
      exact absurd rfl hne

/-- Settings are loaded from one file. -/
theorem Settings.load_congr {t' : FileTree}
    (h : t'.locate (root ++ [Settings.fileName]) = t.locate (root ++ [Settings.fileName])) :
    Settings.load t' root = Settings.load t root := by
  unfold Settings.load Settings.load?
  dsimp only
  rw [h, readText_congr h]

/-- **Settings that were loaded are loaded after a document was put at another location.** -/
theorem Settings.load_replaceFile (hdots : ['.', '.'] ∉ root) (hroot : root <+: place)
    (hplaceDots : ['.', '.'] ∉ place) (hold : t.readText place = .ok old)
    (hother : place ≠ root ++ [Settings.fileName]) (h : Settings.load t root = .ok settings)
    (hne : settings ≠ .default) (text : Text) :
    Settings.load (replaceFile t place text).2 root = .ok settings := by
  obtain ⟨entry, hlocate⟩ := Settings.exists_locate_of_load h hne
  obtain ⟨bytes, modified, hfile⟩ := exists_locate_of_readText hold
  have hself := entry?_of_locate hplaceDots hfile
  have hplace : place ≠ [] := by
    rintro rfl
    cases hself
  have hsettingsDots : ['.', '.'] ∉ root ++ [Settings.fileName] := by
    rw [List.mem_append, not_or]
    exact ⟨hdots, by decide⟩
  -- the vault itself is a directory, so it is no document
  have hvault : place ≠ root := by
    rintro rfl
    have habove := entry?_above_of_locate hsettingsDots hlocate (List.prefix_append _ _) (by simp)
    rw [hself] at habove
    cases habove
  have hdown : root.length < place.length := by
    refine Nat.lt_of_le_of_ne hroot.length_le fun hlength => ?_
    exact hvault (hroot.eq_of_length hlength).symm
  -- what is touched is as far down as the file with the settings, or further
  have hapart : ∀ front, front <+: root ++ [Settings.fileName] →
      front.length = place.length → front = root ++ [Settings.fileName] := by
    intro front hfront hlength
    refine hfront.eq_of_length ?_
    have hle := hfront.length_le
    rw [List.length_append, List.length_singleton] at hle ⊢
    omega
  have hsame : ∀ front, front <+: root ++ [Settings.fileName] →
      FileTree.entry? (replaceFile t place text).2 front = t.entry? front := by
    intro front hfront
    refine entry?_replaceFile_of_ne t hplace text (fun heq => ?_) fun heq => ?_
    · exact hother (heq ▸ hapart front hfront (by rw [heq]))
    · refine besides_ne_settings hplace root (heq ▸ hapart front hfront ?_)
      rw [heq, length_besides hplace]
  rw [← h]
  refine Settings.load_congr ?_
  rw [hlocate]
  refine locate_of_above hsettingsDots hlocate (fun front hfront _ => hsame front hfront) ?_
  rw [hsame _ List.prefix_rfl]
  exact entry?_of_locate hsettingsDots hlocate

/-- **Settings that were loaded are loaded after another document was written.** -/
theorem Settings.load_write {s : FileStore} {path : Text} (hroot : ['.', '.'] ∉ s.root)
    (hread : (DocumentStore.read s path).1 = .ok old)
    (hother : s.resolve path ≠ .ok (s.root ++ [Settings.fileName]))
    (h : Settings.load s.tree s.root = .ok settings) (hne : settings ≠ .default) (text : Text) :
    Settings.load (DocumentStore.write s path text).2.tree s.root = .ok settings := by
  obtain ⟨place, hresolve, hold⟩ := read_eq_ok hread
  have hbelow : s.root <+: place := by
    unfold FileStore.resolve at hresolve
    split at hresolve
    · cases hresolve
    · dsimp only at hresolve
      split at hresolve
      · next hbelow =>
          cases hresolve
          exact List.isPrefixOf_iff_prefix.mp hbelow
      · cases hresolve
  have hplace : place ≠ s.root ++ [Settings.fileName] := by
    rintro rfl
    exact hother hresolve
  rw [write_eq hresolve]
  exact Settings.load_replaceFile hroot hbelow (dots_not_mem_of_resolve hroot hresolve) hold hplace
    h hne text

end NoteVault
