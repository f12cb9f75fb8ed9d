import NoteVault.Command.Basic
import NoteVault.Note.Completion
import NoteVault.Note.Rewrite
import NoteVault.Store.Files

/-!
# The command `check`

Completes or opens the list item on one line of a note, or gives it a status and a text.
The note is edited in place. Without a status an open task is completed and a completed
one opened. If the vault tracks completion, a task that is completed or opened gets or
loses the date, unless a text is given.
-/

namespace NoteVault

/-- What is asked of the command. -/
structure CheckRequest where
  /-- The path of the note. -/
  path : Text
  /-- The line, counted from one. -/
  line : Int
  /-- The new status. -/
  status : Option Text := none
  /-- The new text. -/
  text : Option Text := none
  deriving DecidableEq

/-- The list item on a line of a note, or the message that there is none. -/
def CheckRequest.item? (r : CheckRequest) (note : Text) : Except Text TaskNode :=
  let lines := Text.splitLines note
  let line := Text.ofInt r.line
  if r.line < 1 ∨ lines.length < r.line then
    .error ("Line " ++ line ++ " is outside " ++ r.path
      ++ " (" ++ Text.ofNat lines.length ++ " lines)")
  else
    match TaskNode.ofLine? r.path (r.line - 1) (lines.getD (r.line - 1).toNat []) with
    | some n => .ok n
    | none => .error ("Line " ++ line ++ " of " ++ r.path ++ " is not a list item")

/-- The edit that is asked for. -/
def CheckRequest.edit (r : CheckRequest) (settings : Settings) (today : Date) (n : TaskNode) :
    TaskEdit :=
  let status := r.status.getD (if n.completed then [' '] else ['X'])
  let completes := !(Text.strip status).isEmpty
  let stamped :=
    if settings.tracksCompletion && completes != n.completed then
      some (setCompletion n.text settings.completionField (if completes then some today else none))
    else none
  ⟨status, r.text.or stamped⟩

/-- What the command says when a note was edited, if it is another one now. -/
def CheckRequest.result (r : CheckRequest) (e : TaskEdit) (before after : Text) : Text :=
  if after = before then "No change.\n"
  else Notice.plain (r.path ++ ":" ++ Text.ofInt r.line ++ " -> [" ++ e.status ++ "]") ++ "\n"

/-- Edits the list item on a line. -/
def runCheck (store : FileStore) (today : Date) (r : CheckRequest) :
    Except CommandError Report × FileStore :=
  match Settings.load store.tree store.root with
  | .error error => (.error (.settings error), store)
  | .ok settings =>
    match DocumentStore.read store r.path with
    | (.error reason, store) => (Report.failure (cannotRead r.path reason), store)
    | (.ok before, store) =>
      match r.item? before with
      | .error message => (Report.failure message, store)
      | .ok n =>
        let e := r.edit settings today n
        match rewriteTask store n e with
        | (.error (.store reason), store) => (Report.failure (cannotWrite r.path reason), store)
        | (.error .noSuchLine, store) => (.error .rewrite, store)
        | (.ok _, store) =>
          match (DocumentStore.read store r.path).1 with
          | .error _ => (.error .rewrite, store)
          | .ok after => (.ok { output := r.result e before after }, store)

end NoteVault
