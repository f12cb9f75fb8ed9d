import NoteVault.Store.Basic

/-!
# File trees

A file system as a vault sees it: directories and files under *locations*, the
names on the way down from the root. Files hold bytes and the time of their last
change. There are no links between places, so a path leads where its names say: a
single dot stays, two dots go up, and at the root they stay too.

`FileTree.locate` follows a location the way an operating system does: every name
on the way must be there and be a directory.
-/

namespace NoteVault

/-- The names on the way down from the root. -/
abbrev Location := List Text

/-- The location as a path from the root. -/
def locationPath (place : Location) : Text := place.flatMap fun name => '/' :: name

/-- What stands at a location. -/
inductive FileEntry where
  /-- A directory. -/
  | directory
  /-- A file with its bytes and the second of its last change. -/
  | file (bytes : ByteArray) (modified : Int)

/-- Directories and files under their locations. -/
structure FileTree where
  /-- Everything but the root, by location. -/
  entries : List (Location × FileEntry) := []
  /-- The second that counts as now. -/
  now : Int := 0

/-- The longest name that a file can have, in bytes. -/
def maxNameBytes : Nat := 255

namespace FileTree

/-- What stands at a location. -/
def entry? (t : FileTree) (place : Location) : Option FileEntry :=
  if place.isEmpty then some .directory else t.entries.lookup place

/-- Entries with one put at a location. -/
def putEntry (place : Location) (entry : FileEntry) :
    List (Location × FileEntry) → List (Location × FileEntry)
  | [] => [(place, entry)]
  | (p, e) :: rest =>
    if p = place then (place, entry) :: rest else (p, e) :: putEntry place entry rest

/-- The tree with an entry at a location. -/
def put (t : FileTree) (place : Location) (entry : FileEntry) : FileTree :=
  { t with entries := putEntry place entry t.entries }

/-- The tree without what stands at a location. -/
def erase (t : FileTree) (place : Location) : FileTree :=
  { t with entries := t.entries.filter fun e => e.1 != place }

/-- What stands at the location that goes on from `walked` with further names; two dots go
up. -/
def locateFrom (t : FileTree) (walked : Location) : List Text → Except FileFault FileEntry
  | [] =>
    match t.entry? walked with
    | some entry => .ok entry
    | none => .error .missing
  | name :: rest =>
    match t.entry? walked with
    | none => .error .missing
    | some (.file _ _) => .error .notADirectory
    | some .directory =>
      if maxNameBytes < (String.ofList name).utf8ByteSize then .error .nameTooLong
      else if name = ['.', '.'] then locateFrom t walked.dropLast rest
      else locateFrom t (walked ++ [name]) rest

/-- What stands at a location that is reached through directories. -/
def locate (t : FileTree) (place : Location) : Except FileFault FileEntry :=
  locateFrom t [] place

/-- The directory that holds a location is there. -/
def hasParent (t : FileTree) (place : Location) : Except FileFault Unit :=
  match t.locate place with
  | .ok _ => .ok ()
  | .error .missing =>
    match t.locate place.dropLast with
    | .ok .directory => .ok ()
    | .ok (.file _ _) => .error .notADirectory
    | .error _ => .error .missing
  | .error e => .error e

/-- The bytes of a file, and the second of its last change. -/
def readFile (t : FileTree) (place : Location) : Except FileFault (ByteArray × Int) := do
  match ← t.locate place with
  | .directory => throw .isDirectory
  | .file bytes modified => return (bytes, modified)

/-- The text of a file. -/
def readText (t : FileTree) (place : Location) : Except StoreError Text := do
  let (bytes, _) ← (t.readFile place).mapError fun fault => .file fault (locationPath place) none
  match String.fromUTF8? bytes, findUtf8Fault? bytes.toList with
  | some s, _ => return s.toList
  | none, some fault => throw (.notText fault)
  | none, none => return []

/-- The tree with a file created or overwritten. -/
def writeBytes (t : FileTree) (place : Location) (bytes : ByteArray) :
    Except FileFault FileTree := do
  t.hasParent place
  match t.entry? place with
  | some .directory => throw .isDirectory
  | _ => return t.put place (.file bytes t.now)

/-- The tree with a file moved over another location. -/
def rename (t : FileTree) (source target : Location) : Except FileFault FileTree := do
  match t.entry? source, t.entry? target with
  | some _, some .directory => throw .isDirectory
  | some entry, _ => return (t.erase source).put target entry
  | none, _ => throw .missing

end FileTree

/-! ## Paths -/

/-- The location that names lead to, one after the other. -/
def followNames (start : Location) : List Text → Location
  | [] => start
  | name :: rest =>
    if name.isEmpty || name = ['.'] then followNames start rest
    else if name = ['.', '.'] then followNames start.dropLast rest
    else followNames (start ++ [name]) rest

/-- The location that a path leads to from another one; a path with a slash in front
starts at the root. -/
def resolvePath (start : Location) (path : Text) : Location :=
  followNames (if path.head? = some '/' then [] else start) (Text.splitOn '/' path)

end NoteVault
