import NoteVault.Text.Quoted
import NoteVault.Value.Basic

/-!
# Values in messages

A message shows a value unmistakably: texts in quotes, arrays in brackets or
parentheses, objects in braces. `Value.plainText` is the same except that a text
stands for itself.
-/

namespace NoteVault

/-- A key as a message shows it. -/
def Key.inspect : Key → Text
  | .string s => Text.quoted s
  | k => k.text

namespace Value

mutual
/-- A value as a message shows it. -/
def inspect : Value → Text
  | .null => "None"
  | .bool b => if b then "True" else "False"
  | .number x => x.text
  | .string s => Text.quoted s
  | .date m => m.iso ' '
  | .duration d => d.minimalText
  | .html markup => markup
  | .array .list items => '[' :: Text.joinWith ", " (inspectItems items) ++ [']']
  | .array .tuple items =>
    '(' :: Text.joinWith ", " (inspectItems items) ++ (if items.length = 1 then [','] else []) ++ [')']
  | .link l => l.markdown
  | .function | .callable _ => "<function>"
  | .object entries => '\x7b' :: Text.joinWith ", " (inspectEntries entries) ++ ['\x7d']
  | .task n => n.id
  | .flat _ | .grouped _ | .untagged => "<value>"

/-- Some values as a message shows them. -/
def inspectItems : List Value → List Text
  | [] => []
  | v :: rest => inspect v :: inspectItems rest

/-- Some entries as a message shows them. -/
def inspectEntries : List (Key × Value) → List Text
  | [] => []
  | (k, v) :: rest => (k.inspect ++ ": " ++ inspect v) :: inspectEntries rest
end

/-- A value as text: a text stands for itself, all else is shown as in a
message. -/
def plainText : Value → Text
  | .string s => s
  | v => inspect v

end Value
end NoteVault
