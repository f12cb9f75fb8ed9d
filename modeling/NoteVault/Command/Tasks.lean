import NoteVault.Command.Basic
import NoteVault.Note.Tasks
import NoteVault.Store.Files
import NoteVault.Task.Markdown

/-!
# The command `tasks`

Shows the tasks of one note, each on its own, under a heading with the link to the note.
-/

namespace NoteVault

/-- Shows the tasks of the note at a path. -/
def runTasks (store : FileStore) (path : Text) : Except CommandError Report := do
  let settings ← (Settings.load store.tree store.root).mapError .settings
  match (DocumentStore.read store path).1 with
  | .error reason => Report.failure (cannotRead path reason)
  | .ok note =>
    let tasks := (collectTasks path note).map .task
    let text ← (taskList settings true (.list tasks)).mapError fun _ => .view
    return { output := text ++ ['\n'] }

end NoteVault
