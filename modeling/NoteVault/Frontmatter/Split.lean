import NoteVault.Json.Read
import NoteVault.Text.Blank
import NoteVault.Yaml.Document

/-!
# Head and content of a note

The head of a note stands between two boundary lines at its very beginning, blanks
aside, and the content is what follows. Lines of three dashes or more enclose a head in
YAML, lines of a single brace one in JSON, whose braces they are. Without a second
boundary line the whole note is content. Line ends are expected to be unified.

A head that is not a mapping says nothing. Its keys have to be texts, and three of them
are taken for parts of the note itself.

## Main definitions

* `splitNote` — the head and the content of a note.
* `readHead` — the entries of a head.
-/

namespace NoteVault

/-- How the head of a note is written. -/
inductive HeadFormat where
  /-- In YAML. -/
  | yaml
  /-- In JSON. -/
  | json

/-- Why the head of a note cannot be read. -/
inductive HeadError where
  /-- The YAML is wrong. -/
  | yaml (error : Yaml.YamlError)
  /-- The JSON is wrong. -/
  | json (error : JsonError)
  /-- A key is not a text, or it is the name of a part of the note. -/
  | key
  deriving DecidableEq

/-- The head and the content of a note. -/
structure NoteParts where
  /-- The head, if there is one. -/
  head : Option (HeadFormat × Text)
  /-- The content. -/
  content : Text

namespace HeadFormat

/-- Whether a line is a boundary of a head. -/
def isBoundary (line : Text) : HeadFormat → Bool
  | .yaml =>
    let dashes := line.takeWhile (· = '-')
    3 ≤ dashes.length && Text.allBlank (line.drop dashes.length)
  | .json => line = ['{'] || line = ['}']

/-- The format whose boundary a line is. -/
def ofBoundary? (line : Text) : Option HeadFormat :=
  if isBoundary line .yaml then some .yaml
  else if isBoundary line .json then some .json
  else none

end HeadFormat

/-- The lines before the first boundary and those after it, if there is one. -/
def splitAtBoundary? (format : HeadFormat) : List Text → Option (List Text × List Text)
  | [] => none
  | line :: lines =>
    if format.isBoundary line then some ([], lines)
    else (splitAtBoundary? format lines).map fun (before, after) => (line :: before, after)

/-- The head and the content of a note. Blank lines at the beginning of a head in YAML do
not belong to it. -/
def splitNote (note : Text) : NoteParts :=
  let text := Text.strip note
  let whole : NoteParts := ⟨none, text⟩
  match Text.splitOn '\n' text with
  | [] => whole
  | first :: lines =>
    match HeadFormat.ofBoundary? first with
    | none => whole
    | some format =>
      match splitAtBoundary? format lines with
      | none => whole
      | some (head, content) =>
        let lines := match format with
          | .yaml => head.dropWhile Text.allBlank
          | .json => head
        ⟨some (format, lines.flatMap (· ++ ['\n'])), Text.strip (Text.joinWith ['\n'] content)⟩

/-- The keys of a head that are taken for parts of the note. -/
def reservedKeys : List Text := ["self", "content", "handler"].map String.toList

/-- Whether a key can stand in a head. -/
def isHeadKey : Key → Bool
  | .string s => !reservedKeys.contains s
  | _ => false

/-- The value that a head describes. -/
def headValue (format : HeadFormat) (head : Text) : Except HeadError Value :=
  match format with
  | .yaml => (Yaml.readYaml head).mapError .yaml
  | .json =>
    ((Json.ofText ('{' :: head ++ ['}'])).mapError .json).map (·.toValue)

/-- The entries of a head. -/
def readHead (format : HeadFormat) (head : Text) : Except HeadError (List (Key × Value)) := do
  match ← headValue format head with
  | .object entries => if entries.all fun e => isHeadKey e.1 then return entries else throw .key
  | _ => return []

end NoteVault
