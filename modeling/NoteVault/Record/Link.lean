import NoteVault.Record.Basic

/-!
# Records of links

A link is recorded with its path, its kind, its subpath, its display text and
whether it embeds. Only the path must be there; it is taken as text whatever it
is.
-/

namespace NoteVault.Link

/-- The record of a link. -/
def toRecord (l : Link) : List (Key × Value) :=
  let text? : Option Text → Value
    | none => .null
    | some s => .string s
  [(.string "path", .string l.path), (.string "type", .string l.kind.name),
    (.string "subpath", text? l.subpath?), (.string "display", text? l.display),
    (.string "embed", .bool l.embed)]

/-- The kind that a record names; without a name it is a file. -/
def kindOf (name : Option Value) : Except RecordError LinkKind :=
  match name with
  | none => .ok .file
  | some v =>
    match v with
    | .string s =>
      match LinkKind.ofName? s with
      | some kind => .ok kind
      | none => .error (.link (.unknownKind v.inspect))
    | _ => .error (.link (.unknownKind v.inspect))

/-- The link with a given record. -/
def ofRecord (entries : List (Key × Value)) : Except RecordError Link := do
  let field (name : Text) : Value := (Entries.get? name entries).getD .null
  let path ← match Entries.get? "path" entries with
    | some v => pure v.plainText
    | none => throw (.missing "path")
  let kind ← kindOf (Entries.get? "type" entries)
  let subpath ← (field "subpath").asText?
  let display ← (field "display").asText?
  match ofParts path kind subpath display (field "embed").isSet with
  | .ok link => return link
  | .error error => throw (.link error)

end NoteVault.Link
