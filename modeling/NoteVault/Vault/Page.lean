import NoteVault.Link.WikiLink
import NoteVault.Text.Lower
import NoteVault.Value.Sorting

/-!
# Pages

A page is a note as it was found in a vault: its path, its content with the links in it,
the fields of its frontmatter, and the size and age of its file.

`Page.get` looks a field up. Names that begin with `file.` stand for what the file itself
tells. All others are those of the frontmatter, where case counts only if two names
differ in nothing else. A field that is not there is missing.
-/

namespace NoteVault

/-- A note of a vault. -/
structure Page where
  /-- The path in the vault. -/
  path : Text
  /-- The name of the file without its extension. -/
  name : Text
  /-- The content, without the frontmatter. -/
  content : Text
  /-- The fields of the frontmatter. -/
  fields : List (Key × Value)
  /-- The links in the content. -/
  links : List Link
  /-- The size of the file in bytes. -/
  size : Nat
  /-- The second of its last change, counted from the beginning of 1970. -/
  modified : Int

namespace Page

/-- The link to a page. -/
def link (p : Page) : Link := Link.toFileAt p.path

/-- The path of the directory that holds a page. -/
def folder (p : Page) : Text :=
  match Text.splitLast? '/' p.path with
  | some (folder, _) => folder
  | none => []

/-- What the file of a page tells. -/
def fileFields (p : Page) : List (Text × Value) :=
  [("name", .string p.name),
    ("path", .string p.path),
    ("folder", .string p.folder),
    ("link", .link p.link),
    ("outlinks", .list (p.links.map .link)),
    ("size", .int p.size),
    ("mtime", ((DateTime.ofEpochSecond? p.modified).map fun t => .date (.time t)).getD .null)]

/-- The value under a name in which case does not count. -/
def lookupLower (name : Text) : List (Key × Value) → Option Value
  | [] => none
  | (k, v) :: rest =>
    if Text.lower k.text = Text.lower name then some v else lookupLower name rest

/-- A field of the frontmatter. -/
def field? (p : Page) (name : Text) : Option Value :=
  (Entries.get? name p.fields).or (lookupLower name p.fields)

/-- The value of a field. -/
def get (p : Page) (name : Text) : Value :=
  match Text.dropStart? "file." name with
  | some rest => (p.fileFields.lookup rest).getD .null
  | none => (p.field? name).getD .null

end Page

/-- Pages in the order of a field, those with equal values in their former order; or all
of that backwards. -/
def sortPages (field : Text) (descending : Bool) (pages : List Page) :
    Except OrderError (List Page) := do
  let sorted ← sortedByKey (pages.map fun p => (p.get field, p))
  let ordered := sorted.map (·.2)
  return if descending then ordered.reverse else ordered

end NoteVault
