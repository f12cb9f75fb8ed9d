import NoteVault.Proofs.Value.Lookup
import NoteVault.Store.Memory

/-!
# What a memory store holds

A document that is put at a path is found there, and what is found at any other path stays as
it was, wherever in the list the path stands. So a store can be described by what it holds
under each path, and reading from it changes nothing of that.

## Main results

* `MemoryStore.document?_write_self`, `MemoryStore.document?_write_of_ne` — what is found after
  a write.
* `MemoryStore.read_of_some`, `MemoryStore.read_of_none` — what a read yields and leaves behind.
-/

namespace NoteVault.MemoryStore

variable {path other text : Text}

/-! ## Putting a document -/

theorem lookup_putDocument (path text : Text) (docs : List (Text × Text)) (other : Text) :
    (putDocument path text docs).lookup other =
      if other = path then some text else docs.lookup other := by
  rw [eq_putUnder (putDocument path text) rfl (fun _ _ _ => rfl) docs]
  exact lookup_putUnder path text docs other

/-! ## Reading and writing -/

/-- The store after a document was read. -/
def afterRead (s : MemoryStore) (path : Text) : MemoryStore :=
  { s with reads := s.reads ++ [path] }

/-- The store after a document was written. -/
def afterWrite (s : MemoryStore) (path text : Text) : MemoryStore :=
  { s with documents := putDocument path text s.documents, writes := s.writes ++ [(path, text)] }

theorem read_of_some (s : MemoryStore) (h : s.document? path = some text) :
    DocumentStore.read s path = (.ok text, s.afterRead path) := by
  simp [DocumentStore.read, afterRead, h]

/-- A read that finds nothing leaves its trace too. -/
theorem read_of_none (s : MemoryStore) (h : s.document? path = none) :
    DocumentStore.read s path = (.error (.missing path), s.afterRead path) := by
  simp [DocumentStore.read, afterRead, h]

theorem document?_afterRead (s : MemoryStore) (path other : Text) :
    (s.afterRead path).document? other = s.document? other := rfl

/-- **A document that is written is found.** -/
theorem document?_write_self (s : MemoryStore) (path text : Text) :
    (s.afterWrite path text).document? path = some text :=
  (lookup_putDocument path text s.documents path).trans (if_pos rfl)

/-- **A write changes no other document.** -/
theorem document?_write_of_ne (s : MemoryStore) (text : Text) (hne : other ≠ path) :
    (s.afterWrite path text).document? other = s.document? other :=
  (lookup_putDocument path text s.documents other).trans (if_neg hne)

end NoteVault.MemoryStore
