import NoteVault.Frontmatter.Literal
import NoteVault.Frontmatter.Split
import NoteVault.Store.FileTree
import NoteVault.Text.Lines
import NoteVault.Vault.Page

/-!
# Loading pages

The pages of a vault are its files named `*.md` at any depth, except where a name on the
way begins with a dot. They come in the order of their paths, name by name. A page that
cannot be loaded is left out.
-/

namespace NoteVault

/-- Why a page cannot be loaded. -/
inductive PageError where
  /-- Its path holds the character U+0000. -/
  | nullInPath
  /-- Its file cannot be read. -/
  | store (error : StoreError)
  /-- Its head cannot be read. -/
  | head (error : HeadError)
  /-- A value in its head has no meaning. -/
  | literal (error : LiteralError)

/-- What is wrong with a path that holds the character U+0000. -/
def PageError.nullMessage : Text := "embedded null byte"

/-- The entries in the head of a note; there are none without a head. -/
def headEntries (parts : NoteParts) : Except PageError (List (Key × Value)) :=
  match parts.head with
  | none => .ok []
  | some (format, head) => (readHead format head).mapError .head

/-- The page that a note is, without the path and what its file tells. -/
def readNote (note : Text) : Except PageError (List (Key × Value) × Text) := do
  let parts := splitNote (Text.unifyLineEnds note)
  let entries ← headEntries parts
  match ← (Value.ofFrontmatter (.object entries)).mapError .literal with
  | .object fields => return (fields, parts.content)
  | _ => return ([], parts.content)

/-- The page at the end of some names below the root of a vault. -/
def loadPage (t : FileTree) (root names : Location) : Except PageError Page := do
  let text ← (t.readText (root ++ names)).mapError .store
  let (fields, content) ← readNote text
  let (size, modified) := match t.readFile (root ++ names) with
    | .ok (bytes, modified) => (bytes.size, modified)
    | .error _ => (0, 0)
  return {
    path := Text.joinWith ['/'] names
    name := withoutExtension (names.getLastD [])
    content, fields, size, modified
    links := extractLinks content }

/-- The page at a path, seen from the root of a vault. Single dots and doubled slashes do not
count, and a path with a slash in front starts at the root of the files. -/
def loadPageAt (t : FileTree) (root : Location) (path : Text) : Except PageError Page :=
  let names := (Text.splitOn '/' path).filter fun name => !name.isEmpty && name != ['.']
  if path.contains '\x00' then .error .nullInPath
  else loadPage t (if path.head? = some '/' then [] else root) names

/-- Whether names lead to a page. -/
def isPagePlace (names : Location) : Bool :=
  (names.getLastD []).reverse.take 3 = ['d', 'm', '.'] && names.all (·.head? != some '.')

/-- The places of pages below the root of a vault, in their order. -/
def pagePlaces (t : FileTree) (root : Location) : List Location :=
  let below := t.entries.filterMap fun (place, _) =>
    if root.isPrefixOf place then some (place.drop root.length) else none
  (below.filter isPagePlace).mergeSort fun a b => (compare a b).isLE

/-- The pages of a vault. -/
def loadPages (t : FileTree) (root : Location) : List Page :=
  (pagePlaces t root).filterMap fun names => (loadPage t root names).toOption

end NoteVault
