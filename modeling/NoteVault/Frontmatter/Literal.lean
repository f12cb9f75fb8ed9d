import NoteVault.Calendar.DurationText
import NoteVault.Link.WikiLink
import NoteVault.Value.Basic

/-!
# Values of frontmatter

The head of a note holds plain data, and some texts in it mean more than they say. A
text that is nothing but a link, a date or a duration, blanks around it aside,
becomes that; a date alone becomes its midnight. Arrays become lists, objects have
texts for keys, and everything else stays as it is.

The conversion fails only on a duration that is out of bounds and on a key that is an
integer with too many digits to be written.
-/

namespace NoteVault

/-- Why a value in frontmatter has no meaning. -/
inductive LiteralError where
  /-- A text in it is a duration that is out of bounds. -/
  | duration (error : DurationError)
  /-- A key in it is an integer that cannot be written. -/
  | longKey
  deriving DecidableEq

namespace Value

/-- What a text in frontmatter means. -/
def ofText (s : Text) : Except LiteralError Value :=
  let inner := Text.strip s
  match onlyLink? inner with
  | some l => .ok (.link l)
  | none =>
    match readIso? inner with
    | some t => .ok (.date (.time t))
    | none => do
      match ← (readDuration inner).mapError .duration with
      | some d => return .duration d
      | none => return .string s

mutual
/-- What a value in frontmatter means. -/
def ofFrontmatter : Value → Except LiteralError Value
  | .object entries => do return .object (Entries.ofList (← ofEntries entries))
  | .array _ items => do return .list (← ofItems items)
  | .string s => ofText s
  | v => .ok v

/-- What some values in frontmatter mean. -/
def ofItems : List Value → Except LiteralError (List Value)
  | [] => .ok []
  | v :: rest => do
    let v ← ofFrontmatter v
    return v :: (← ofItems rest)

/-- What some entries in frontmatter mean. -/
def ofEntries : List (Key × Value) → Except LiteralError (List (Key × Value))
  | [] => .ok []
  | (k, v) :: rest =>
    if k.isWritable then do
      let v ← ofFrontmatter v
      return (.string k.text, v) :: (← ofEntries rest)
    else .error .longKey
end

end Value
end NoteVault
