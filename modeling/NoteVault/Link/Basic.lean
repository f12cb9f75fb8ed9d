import NoteVault.Link.Title
import NoteVault.Link.Header

/-!
# Links

A link points at a file, at a header in it, or at a block in it, and says how it
is shown. What it points at is part of its type: a link to a file has no
subpath, and a link to a header or a block always has one, be it empty.

Links are compared by what they point at. The text they display and whether they
embed their target play no role in that.

## Main definitions

* `Link`, `LinkTarget`, `LinkKind` — links and their parts.
* `Link.ofParts` — the link with a kind and a subpath given separately, which may
  not fit together.
* `Link.pointsLike` — whether two links point at the same place.
* `Link.markdown` — the link in a note.
-/

namespace NoteVault

/-- What kind of place a link points at. -/
inductive LinkKind where
  /-- A file. -/
  | file
  /-- A header in a file. -/
  | header
  /-- A block in a file. -/
  | block
  deriving DecidableEq

namespace LinkKind

/-- The name of a kind. -/
def name : LinkKind → Text
  | .file => "file"
  | .header => "header"
  | .block => "block"

/-- The kind with a name. -/
def ofName? (s : Text) : Option LinkKind :=
  [LinkKind.file, .header, .block].find? fun kind => kind.name = s

end LinkKind

/-- The place in a file that a link points at. -/
inductive LinkTarget where
  /-- The file as a whole. -/
  | file
  /-- A header, by its words. -/
  | header (words : Text)
  /-- A block, by its identifier. -/
  | block (id : Text)
  deriving DecidableEq

namespace LinkTarget

/-- The kind of a target. -/
def kind : LinkTarget → LinkKind
  | .file => .file
  | .header _ => .header
  | .block _ => .block

/-- The part of a target below its file. -/
def subpath? : LinkTarget → Option Text
  | .file => none
  | .header words => some words
  | .block id => some id

end LinkTarget

/-- A link in a note. -/
structure Link where
  /-- The path of the file. -/
  path : Text
  /-- The place in the file. -/
  target : LinkTarget := .file
  /-- The text shown for the link, if it has one of its own. -/
  display : Option Text := none
  /-- Whether the target itself is shown in place of the link. -/
  embed : Bool := false
  deriving DecidableEq

/-- Why the parts of a link do not make a link. -/
inductive LinkError where
  /-- The kind is none of the three; `shown` is what stood there. -/
  | unknownKind (shown : Text)
  /-- A file has no subpath. -/
  | fileWithSubpath
  /-- A place in a file has a subpath. -/
  | missingSubpath (kind : LinkKind)
  deriving DecidableEq

/-- The error as a message. -/
def LinkError.message : LinkError → Text
  | .unknownKind shown => "Invalid link type: " ++ shown
  | .fileWithSubpath => "File links cannot carry a subpath"
  | .missingSubpath kind => kind.name ++ " links require a subpath"

namespace Link

/-! ## Making links -/

/-- The link to a file. -/
def toFileAt (path : Text) (embed : Bool := false) (display : Option Text := none) : Link :=
  ⟨path, .file, display, embed⟩

/-- The link to a header of a file, by the words of the header. -/
def toHeaderAt (path header : Text) (embed : Bool := false) (display : Option Text := none) :
    Link :=
  ⟨path, .header (normalizeHeader header), display, embed⟩

/-- The link to a block of a file. -/
def toBlockAt (path id : Text) (embed : Bool := false) (display : Option Text := none) : Link :=
  ⟨path, .block id, display, embed⟩

/-- The target with a kind and a subpath, if they fit together. -/
def targetOf (kind : LinkKind) (subpath : Option Text) : Except LinkError LinkTarget :=
  match kind, subpath with
  | .file, none => .ok .file
  | .file, some _ => .error .fileWithSubpath
  | .header, some words => .ok (.header words)
  | .block, some id => .ok (.block id)
  | kind, none => .error (.missingSubpath kind)

/-- The link with given parts, if they fit together. -/
def ofParts (path : Text) (kind : LinkKind) (subpath display : Option Text) (embed : Bool) :
    Except LinkError Link := do
  return ⟨path, ← targetOf kind subpath, display, embed⟩

/-! ## Parts -/

/-- The kind of place that the link points at. -/
def kind (l : Link) : LinkKind := l.target.kind

/-- The part of the target below its file. -/
def subpath? (l : Link) : Option Text := l.target.subpath?

/-- The title of the file that the link points at. -/
def fileName (l : Link) : Text := fileTitle l.path

/-- Whether two links point at the same place. -/
def pointsLike (a b : Link) : Bool := a.path = b.path && a.target = b.target

/-! ## Changing links -/

/-- The same place in another file. -/
def withPath (l : Link) (path : Text) : Link := { l with path }

/-- The same place under another display text, or under none. -/
def withDisplay (l : Link) (display : Option Text) : Link := { l with display }

/-- A link to a header of the same file. -/
def withHeader (l : Link) (header : Text) : Link := toHeaderAt l.path header l.embed l.display

/-- A link to the file as a whole. -/
def toFile (l : Link) : Link := toFileAt l.path l.embed l.display

/-- The link as an embedding one. -/
def toEmbed (l : Link) : Link := { l with embed := true }

/-! ## Markdown -/

/-- How the subpath is marked behind the path. -/
def anchor (l : Link) : Text :=
  match l.target with
  | .file => []
  | .header words => '#' :: words
  | .block id => '#' :: '^' :: id

/-- The text that stands for a link without one of its own: the title of the file,
and the subpath behind it. -/
def defaultDisplay (l : Link) : Text :=
  fileTitle l.path ++ (match l.subpath? with | none => [] | some sub => " > " ++ sub)

/-- The text shown for a link. An empty one of its own does not count. -/
def shownText (l : Link) : Text :=
  match l.display with
  | none | some [] => l.defaultDisplay
  | some shown => shown

/-- The link as it stands in a note. -/
def markdown (l : Link) : Text :=
  (if l.embed then ['!'] else []) ++ '[' :: '[' :: l.path ++ l.anchor ++ '|' :: l.shownText
    ++ [']', ']']

end Link
end NoteVault
