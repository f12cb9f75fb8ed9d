import NoteVault.Store.Basic

/-!
# Documents in memory

A store that keeps its documents in a list and remembers every read and every
write, also a read that found nothing.
-/

namespace NoteVault

/-- Documents in memory, with what was done to them. -/
structure MemoryStore where
  /-- The documents by path. -/
  documents : List (Text × Text) := []
  /-- The paths that were read. -/
  reads : List Text := []
  /-- The paths that were written, with what was written. -/
  writes : List (Text × Text) := []

namespace MemoryStore

/-- A list of documents with one put at a path. -/
def putDocument (path text : Text) : List (Text × Text) → List (Text × Text)
  | [] => [(path, text)]
  | (p, t) :: rest => if p = path then (path, text) :: rest else (p, t) :: putDocument path text rest

/-- The document at a path. -/
def document? (s : MemoryStore) (path : Text) : Option Text := s.documents.lookup path

instance : DocumentStore MemoryStore where
  read s path :=
    (match s.document? path with
      | some text => .ok text
      | none => .error (.missing path),
    { s with reads := s.reads ++ [path] })
  write s path text :=
    (.ok (), { s with
      documents := putDocument path text s.documents
      writes := s.writes ++ [(path, text)] })

end MemoryStore
end NoteVault
