import NoteVault.Notice.Columns
import NoteVault.Notice.Emoji
import NoteVault.Notice.Style
import NoteVault.Text.Word

/-!
# Messages with markup

A message can hold tags in brackets, which style what is between them and are not shown. A
tag begins with a small letter, `#`, `@` or a slash; all other brackets are text. A tag with
a slash closes the last open tag that describes the same style, or the last one if it
describes none, and must find one. Tags need not be closed.

A backslash in front of a tag makes text of it, and two backslashes one of them. In text a
backslash before a bracket is dropped.

A tag with `@` can carry the name of an action with arguments, which have to be literals.

## Main definitions

* `Markup.pieces` — the text and the tags of a message.
* `Markup.toText` — a message without its tags.
* `Notice.ofMarkup`, `Notice.plain` — a message as it is shown.
-/

namespace NoteVault

/-- What is wrong with the markup of a message. -/
inductive MarkupFault where
  /-- A closing tag closes nothing. -/
  | nothingToClose
  /-- The arguments of an action cannot be read. -/
  | arguments
  /-- A number of a colour is missing. -/
  | colorNumber
  deriving DecidableEq

/-- The fault as a message. -/
def MarkupFault.message : MarkupFault → Text
  | .nothingToClose => "a closing tag has nothing to close"
  | .arguments => "the arguments of a tag cannot be read"
  | .colorNumber => "invalid literal for int() with base 10: ''"

namespace Markup

/-- A tag: its name, and what follows an equals sign. -/
structure Mark where
  /-- The name. -/
  name : Text
  /-- What follows an equals sign. -/
  parameters : Option Text
  deriving DecidableEq

/-- A part of a message. -/
inductive Piece where
  /-- Text between tags. -/
  | plain (s : Text)
  /-- Backslashes, or a tag behind one that has made text of it. -/
  | literal (s : Text)
  /-- A tag. -/
  | tag (mark : Mark)
  deriving DecidableEq

/-- Whether a tag can begin with a character. -/
def isTagStart (c : Char) : Bool := c.isLower || c = '#' || c = '/' || c = '@'

/-- The tag between two brackets. -/
def markOf (inner : Text) : Mark :=
  let name := inner.takeWhile (· != '=')
  ⟨name, if name.length < inner.length then some (inner.drop (name.length + 1)) else none⟩

/-- The pieces that a tag behind so many backslashes makes. -/
def piecesOf (slashes : Nat) (inner : Text) : List Piece :=
  let kept := List.replicate (slashes / 2) '\\'
  let front := if kept.isEmpty then [] else [.literal kept]
  if slashes % 2 = 1 then front ++ [.literal ('[' :: inner ++ [']'])]
  else front ++ [.tag (markOf inner)]

/-- A tag with its backslashes at the beginning of a text, and what follows. -/
def recognise (s : Text) : Option (List Piece × Text) :=
  let slashes := (s.takeWhile (· = '\\')).length
  match s.drop slashes with
  | '[' :: c :: rest =>
    let body := rest.takeWhile fun d => d != '[' && d != ']'
    match rest.drop body.length with
    | ']' :: after =>
      if isTagStart c then some (piecesOf slashes (c :: body), after) else none
    | _ => none
  | _ => none

/-- A character in front of pieces. -/
def addChar (c : Char) : List Piece → List Piece
  | .plain s :: pieces => .plain (c :: s) :: pieces
  | pieces => .plain [c] :: pieces

/-- The pieces of the rest of a message, its first `skip` characters belonging to a tag that
has been read. -/
def piecesFrom : (skip : Nat) → Text → List Piece
  | _, [] => []
  | skip + 1, _ :: rest => piecesFrom skip rest
  | 0, c :: rest =>
    match recognise (c :: rest) with
    | none => addChar c (piecesFrom 0 rest)
    | some (pieces, after) => pieces ++ piecesFrom (rest.length - after.length) rest

/-- The pieces of a message. -/
def pieces (message : Text) : List Piece := piecesFrom 0 message

/-- The text without the backslashes before brackets. -/
def unescape : Text → Text
  | [] => []
  | '\\' :: '[' :: rest => '[' :: unescape rest
  | c :: rest => c :: unescape rest

/-! ## Arguments of actions -/

/-- Whether a text is a literal without parts: a number, a word for a constant, or a text in
quotes. -/
def isSimpleLiteral (s : Text) : Bool :=
  let unsigned := match s with
    | '-' :: rest | '+' :: rest => rest
    | s => s
  match s with
  | [] => false
  | quote :: rest =>
    if quote = '\'' || quote = '"' then
      rest.getLast? = some quote
        && rest.dropLast.all fun c => c != quote && c != '\\' && c != '\n'
    else
      ["True", "False", "None"].any (·.toList = s)
        || unsigned.head?.any Char.isDigit && unsigned.all (fun c => c.isDigit || c = '.')
          && (unsigned.filter (· = '.')).length ≤ 1
          && (unsigned.head? != some '0' || unsigned.length = 1 || unsigned.contains '.')

/-- Whether a text is a list of literals between commas; the last comma may be followed by
nothing. -/
def areLiterals (s : Text) : Bool :=
  let parts := (Text.splitOn ',' s).map Text.strip
  let parts := if 1 < parts.length && parts.getLast? = some [] then parts.dropLast else parts
  Text.allBlank s || parts.all isSimpleLiteral

/-- Whether a character can stand in the name of an action. -/
def isActionChar (c : Char) : Bool := Text.isWord c || c = '.'

/-- Whether what a tag of an action carries can be read. -/
def isAction (parameters : Text) : Bool :=
  let s := Text.strip parameters
  match s.dropWhile isActionChar with
  | [] => true
  | '(' :: rest =>
    rest.getLast? = some ')' && areLiterals rest.dropLast
  | _ => isSimpleLiteral s

/-! ## Tags -/

/-- Checks what an open tag carries when it is closed. -/
def checkClosed (mark : Mark) : Except MarkupFault Unit :=
  if mark.name.head? = some '@' && !isAction (mark.parameters.getD []) then .error .arguments
  else .ok ()

/-- The last of the open tags with a name, and the others. -/
def takeNamed? (name : Text) : List Mark → Option (Mark × List Mark)
  | [] => none
  | mark :: rest =>
    if mark.name = name then some (mark, rest)
    else (takeNamed? name rest).map fun (found, rest) => (found, mark :: rest)

/-- The normal form of the name of a tag. -/
def normalName (name : Text) : Except MarkupFault Text :=
  (Style.normalForm name).mapError fun _ => .colorNumber

/-- The open tags after another tag. -/
def passTag (isOpen : List Mark) (mark : Mark) : Except MarkupFault (List Mark) :=
  match mark.name with
  | '/' :: name => do
    let name := Text.strip name
    let found? ←
      if name.isEmpty then pure (isOpen.head?.map fun last => (last, isOpen.tail))
      else do pure (takeNamed? (← normalName name) isOpen)
    match found? with
    | none => throw .nothingToClose
    | some (closed, rest) =>
      checkClosed closed
      return rest
  | name => do return { mark with name := ← normalName name } :: isOpen

/-- The text of pieces, with emoji in the place of their names. -/
def textOf (isOpen : List Mark) : List Piece → Except MarkupFault Text
  | [] => .ok []
  | .plain s :: pieces | .literal s :: pieces => do
    return Emoji.replaceNames (unescape s) ++ (← textOf isOpen pieces)
  | .tag mark :: pieces => do textOf (← passTag isOpen mark) pieces

/-- A message without its tags. -/
def toText (message : Text) : Except MarkupFault Text := textOf [] (pieces message)

end Markup

namespace Notice

/-- A message without markup as it is shown. -/
def plain (message : Text) : Text := layOut (Emoji.replaceNames message)

/-- A message with markup as it is shown. -/
def ofMarkup (message : Text) : Except MarkupFault Text := (Markup.toText message).map layOut

end Notice
end NoteVault
