import NoteVault.Store.FileTree

/-!
# Documents as files

A store whose documents are the files below the root of a vault. Paths that lead
out of the vault are refused.

A document is written to a file beside it first, named with `.tmp` behind, which
then takes its place: a reader sees the old document or the new one, never a part.
If anything fails the file beside it is removed. The root of the file system has no
name, so nothing can be written beside it and nothing is tried.
-/

namespace NoteVault

/-- The files of a vault. -/
structure FileStore where
  /-- All files. -/
  tree : FileTree
  /-- The location of the vault. -/
  root : Location

namespace FileStore

/-- The location of a document. -/
def resolve (s : FileStore) (path : Text) : Except StoreError Location :=
  if path.contains '\x00' then .error .nullInPath
  else
    let place := resolvePath s.root path
    if s.root.isPrefixOf place then .ok place else .error (.escapes path)

/-- The location beside a document where it is written first; the document is not the root
of the file system. -/
def besides (place : Location) : Location :=
  place.dropLast ++ [place.getLastD [] ++ ".tmp"]

/-- What an operation leaves behind when the file beside a document is removed after a
failure. The reason is that of the failure, unless the removal fails as well. -/
def cleanUp (t : FileTree) (beside : Location) (reason : StoreError) :
    Except StoreError Unit × FileTree :=
  match t.entry? beside with
  | some .directory => (.error (.file .isDirectory (locationPath beside) none), t)
  | _ => (.error reason, t.erase beside)

/-- The tree after a document was put at a location. -/
def replaceFile (t : FileTree) (place : Location) (text : Text) :
    Except StoreError Unit × FileTree :=
  if place = [] then (.error .unnamed, t)
  else
    let beside := besides place
    let path := locationPath beside
    match t.writeBytes beside (String.ofList text).toUTF8 with
    | .error fault => cleanUp t beside (.file fault path none)
    | .ok written =>
      match written.rename beside place with
      | .error fault => cleanUp written beside (.file fault path (some (locationPath place)))
      | .ok renamed => (.ok (), renamed)

instance : DocumentStore FileStore where
  read s path :=
    (do s.tree.readText (← s.resolve path), s)
  write s path text :=
    match s.resolve path with
    | .error reason => (.error reason, s)
    | .ok place =>
      let (result, tree) := replaceFile s.tree place text
      (result, { s with tree })

end FileStore
end NoteVault
