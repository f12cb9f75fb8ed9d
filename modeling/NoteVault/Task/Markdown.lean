import NoteVault.Task.Nest
import NoteVault.Value.Display
import NoteVault.Value.Grouping

/-!
# Tasks as markdown

Tasks are shown as a nested list of items with checkboxes, one tab deeper at each
level, and the further lines of a text one tab deeper than its first. At every
level, items that are nested below others of the same list are shown there only.
Groups come under headings, at any depth of grouping.

## Main definitions

* `taskLines` — the lines of a list of tasks.
* `renderTasks` — a grouping of tasks as markdown.
* `taskList` — the same with a flat result grouped by file first.
-/

namespace NoteVault

/-! ## Lists of tasks -/

/-- What an empty result says. -/
def emptyResultText : Text := "No results to show."

/-- What stands in front of the text of an item. -/
def itemMarker : Option Text → Text
  | some status => "- [" ++ status ++ "] "
  | none => "- "

/-- The lines of an item's own text at a depth. -/
def ownLines (depth : Nat) (status : Option Text) (text : Text) : List Text :=
  let indent := List.replicate depth '\t'
  match Text.splitOn '\n' text with
  | [] => []
  | first :: rest =>
    (indent ++ itemMarker status ++ first) :: rest.map fun line => indent ++ '\t' :: line

mutual
/-- The lines of an item and of everything below it. -/
def itemLines (depth : Nat) : TaskNode → List Text
  | ⟨_, _, _, text, _, status, children, _, _, _, _⟩ =>
    ownLines depth status text ++ keptLines (nestedIds children) (depth + 1) children

/-- The lines of the items that are not among the nested ones. -/
def keptLines (nested : List Text) (depth : Nat) : List TaskNode → List Text
  | [] => []
  | n :: rest =>
    (if nested.contains n.id then [] else itemLines depth n) ++ keptLines nested depth rest
end

/-- The lines of a list of tasks. -/
def taskLines (items : List TaskNode) : List Text := keptLines (nestedIds items) 0 items

/-! ## Groupings of tasks -/

mutual
/-- The lines of a grouping of tasks. -/
def groupingLines (settings : Settings) : Grouping TaskNode → List Text
  | .flat [] => if settings.warnsOnEmpty then [emptyResultText] else []
  | .flat items => taskLines items
  | .grouped groups => groupLines settings groups

/-- The lines of some groups: a heading, a blank line, the rows, a blank line. -/
def groupLines (settings : Settings) : List (Value × Grouping TaskNode) → List Text
  | [] => []
  | (key, rows) :: rest =>
    ("#### " ++ key.headingText settings) :: [] :: groupingLines settings rows
      ++ [] :: groupLines settings rest
end

/-- Lines without the empty ones at the end. -/
def dropEmptyEnd : List Text → List Text
  | [] => []
  | line :: rest =>
    match dropEmptyEnd rest with
    | [] => if line.isEmpty then [] else [line]
    | kept => line :: kept

/-- A grouping of tasks as markdown. -/
def groupingMarkdown (settings : Settings) (g : Grouping TaskNode) : Text :=
  Text.joinWith ['\n'] (dropEmptyEnd (groupingLines settings g))

/-! ## Results given as values -/

/-- Why a result cannot be shown as tasks. -/
inductive TaskViewError where
  /-- It is no sequence, or its rows are no tasks. -/
  | record (error : RecordError)
  /-- The paths of its files cannot be compared. -/
  | order (error : OrderError)
  deriving DecidableEq

/-- A row that must be a task. -/
def asTask : Value → Except RecordError TaskNode
  | .task n => .ok n
  | _ => .error .notARecord

/-- The file that a row belongs to: that of a task, or the one a link points at. -/
def rowPath : Value → Except RecordError Text
  | .task n => .ok n.path
  | .link l => .ok l.path
  | _ => .error .notARecord

/-- An error of a record as one of the view. -/
def liftRecord {α : Type} : Except RecordError α → Except TaskViewError α
  | .ok a => .ok a
  | .error e => .error (.record e)

/-- An error of the order as one of the view. -/
def liftOrder {α : Type} : Except OrderError α → Except TaskViewError α
  | .ok a => .ok a
  | .error e => .error (.order e)

/-- A grouping whose rows must be tasks, as markdown. -/
def rowsMarkdown (settings : Settings) (g : Grouping Value) : Except TaskViewError Text := do
  return groupingMarkdown settings (← liftRecord (g.mapM asTask))

/-- A result as markdown. -/
def renderTasks (settings : Settings) (result : Value) : Except TaskViewError Text := do
  rowsMarkdown settings (← liftRecord (Grouping.ofValue result))

/-- Rows grouped by the link to their file. -/
def groupByFile (rows : List Value) : Except TaskViewError (Grouping Value) := do
  let pairs ← liftRecord (rows.mapM fun row => do
    return (Value.link (Link.toFileAt (← rowPath row)), row))
  liftOrder (groupPairs pairs)

/-- A result as markdown; a flat one is grouped by file first, unless it is empty or
`byFile` is off. -/
def taskList (settings : Settings) (byFile : Bool) (result : Value) :
    Except TaskViewError Text := do
  match ← liftRecord (Grouping.ofValue result) with
  | .flat (row :: rest) =>
    if byFile then rowsMarkdown settings (← groupByFile (row :: rest))
    else rowsMarkdown settings (.flat (row :: rest))
  | g => rowsMarkdown settings g

end NoteVault
