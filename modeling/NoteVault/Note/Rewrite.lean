import NoteVault.Line.ListItem
import NoteVault.Store.Basic
import NoteVault.Text.Lines

/-!
# Rewriting a task in its note

A task is changed where it stands. The note is read, the line of the task is checked
against what is known of the task, the changed lines are put in place of the old
ones, and the note is written back once. If the note has changed so that the line no
longer holds the task, nothing is written and the rewrite is *skipped*.

Every line of the written note ends like a line of the note read: with carriage
return and line feed if there was any carriage return in it.

A negative line counts from the end of the note, and a block of lines is clipped to
the note.

## Main definitions

* `TaskEdit` — what a task is to become.
* `planRewrite` — what becomes of the text of a note.
* `rewriteTask` — the same on a store.
-/

namespace NoteVault

/-- What a task is to become. -/
structure TaskEdit where
  /-- The new content of the checkbox; an empty one means a blank. -/
  status : Text
  /-- The new text, if there is one. -/
  text : Option Text

/-- Why a rewrite is skipped. -/
inductive SkipReason where
  /-- The note has no such line. -/
  | beyondEnd
  /-- The line is no list item with a body. -/
  | notAListItem
  /-- The line has another text. -/
  | staleText
  deriving DecidableEq

/-- The message that a rewrite of a task is skipped. -/
def SkipReason.message (n : TaskNode) (reason : SkipReason) : Text :=
  "Skipping rewrite of " ++ n.id ++ ": " ++
    match reason with
    | .beyondEnd => "line " ++ Text.ofInt n.line ++ " beyond end of note"
    | .notAListItem => "line is no longer a list item"
    | .staleText => "cached text no longer matches the note"

/-- Why a rewrite fails. -/
inductive RewriteError where
  /-- The store refuses. -/
  | store (error : StoreError)
  /-- The line lies before the beginning of the note. -/
  | noSuchLine
  deriving DecidableEq

/-! ## Lines by number -/

/-- The index of a line among `count`, negative numbers counting from the end. -/
def lineIndex? (count : Nat) (line : Int) : Option Nat :=
  let index := if line < 0 then count + line else line
  if 0 ≤ index ∧ index < count then some index.toNat else none

/-- A position among `count` lines, clipped to them; negative ones count from the
end. -/
def clipIndex (count : Nat) (position : Int) : Nat :=
  min count (if position < 0 then count + position else position).toNat

/-- Lines with a block of them replaced, from one position up to another. -/
def spliceLines (lines : List Text) (start stop : Int) (new : List Text) : List Text :=
  let start := clipIndex lines.length start
  let stop := max start (clipIndex lines.length stop)
  lines.take start ++ new ++ lines.drop stop

/-! ## The plan -/

/-- The first line of a text, up to its first line feed. -/
def firstLine (s : Text) : Text := s.takeWhile (· != '\n')

/-- The line of a task with a given status and text. -/
def taskLine (indent symbol status text : Text) : Text :=
  indent ++ symbol ++ ' ' :: '[' :: status ++ ']' :: ' ' :: text

/-- The lines of a task with a given text; further lines of the text are one tab
deeper. -/
def taskBlock (indent symbol status text : Text) : List Text :=
  match Text.splitOn '\n' text with
  | [] => []
  | first :: rest => taskLine indent symbol status first :: rest.map fun part => indent ++ '\t' :: part

/-- What becomes of a note. -/
inductive RewritePlan where
  /-- It stays as it is. -/
  | skip (reason : SkipReason)
  /-- It gets a new text. -/
  | replace (text : Text)

/-- The status as it stands in a checkbox. -/
def TaskEdit.checkbox (e : TaskEdit) : Text := if e.status.isEmpty then [' '] else e.status

/-- Whether an edit leaves a task as it is. -/
def TaskEdit.isVoid (e : TaskEdit) (n : TaskNode) : Bool :=
  some e.status = n.status && (e.text = none || e.text = some n.text)

/-- The lines of a note with a task changed, which is on the line `line` at `index`. A
new text takes the place of the whole block of the task, otherwise only the line of its
marker changes. -/
def editLines (n : TaskNode) (e : TaskEdit) (lines : List Text) (index : Nat) (line : Text) :
    List Text :=
  let indent := leadingBlanks line
  match e.text with
  | none | some [] =>
    lines.set index (taskLine indent n.symbol e.checkbox (Text.strip (firstLine n.text)))
  | some text =>
    spliceLines lines n.line (n.line + n.lineCount) (taskBlock indent n.symbol e.checkbox text)

/-- Why a line is not the line of a task, if it is not. -/
def skipReason? (n : TaskNode) (line : Text) : Option SkipReason :=
  match ListItem.ofLine? line with
  | none => some .notAListItem
  | some item =>
    if item.body.isEmpty then some .notAListItem
    else if Text.strip (firstLine n.text) != Text.strip item.body then some .staleText
    else none

/-- What becomes of the text of a note when a task is edited in it. -/
def planRewrite (n : TaskNode) (e : TaskEdit) (note : Text) : Except RewriteError RewritePlan :=
  let lines := Text.splitLines note
  if lines.length ≤ n.line then .ok (.skip .beyondEnd)
  else
    match lineIndex? lines.length n.line with
    | none => .error .noSuchLine
    | some index =>
      let line := lines.getD index []
      match skipReason? n line with
      | some reason => .ok (.skip reason)
      | none =>
        .ok (.replace (Text.joinLines (Text.lineEndOf note) (editLines n e lines index line)))

/-! ## On a store -/

/-- What a rewrite did. -/
inductive RewriteOutcome where
  /-- The task is already as it should be. -/
  | unchanged
  /-- The note does not hold the task. -/
  | skipped (reason : SkipReason)
  /-- The note was written. -/
  | written
  deriving DecidableEq

/-- Edits a task in its note. An edit that leaves the task as it is does not even read
the note. -/
def rewriteTask {σ : Type} [DocumentStore σ] (store : σ) (n : TaskNode) (e : TaskEdit) :
    Except RewriteError RewriteOutcome × σ :=
  if e.isVoid n then (.ok .unchanged, store)
  else
    match DocumentStore.read store n.path with
    | (.error error, store) => (.error (.store error), store)
    | (.ok note, store) =>
      match planRewrite n e note with
      | .error error => (.error error, store)
      | .ok (.skip reason) => (.ok (.skipped reason), store)
      | .ok (.replace text) =>
        match DocumentStore.write store n.path text with
        | (.error error, store) => (.error (.store error), store)
        | (.ok (), store) => (.ok .written, store)

end NoteVault
