import NoteVault.Link.Basic

/-!
# Tasks

A `TaskNode` is one list item of a note with the items nested below it. It is a
task if it has a checkbox. A node is identified by its path and the line of its
marker.

A blank checkbox is open; any other character in it counts as completed.
-/

namespace NoteVault

/-- A list item of a note, with the items nested below it. -/
structure TaskNode where
  /-- The path of the note. -/
  path : Text
  /-- The line of the marker, counted from 0. -/
  line : Int
  /-- How many lines the text of the item takes up. -/
  lineCount : Int
  /-- The text without marker and checkbox; it may have several lines. -/
  text : Text
  /-- The marker. -/
  symbol : Text
  /-- What stands in the checkbox, if there is one. -/
  status : Option Text
  /-- The items nested below. -/
  children : List TaskNode
  /-- The header or file that the item stands under. -/
  sectionLink : Option Link
  /-- The line of the item that this one is nested in. -/
  parent : Option Int
  /-- The identifier of the item as a block. -/
  blockId : Option Text
  /-- The tags of the item. -/
  tags : List Text

namespace TaskNode

/-- The identifier of a node: its path and its line. -/
def id (n : TaskNode) : Text := n.path ++ ':' :: Text.ofInt n.line

/-- Whether the item has a checkbox. -/
def isTask (n : TaskNode) : Bool := n.status.isSome

/-- Whether the checkbox holds anything but a blank. -/
def completed (n : TaskNode) : Bool :=
  match n.status with
  | none => false
  | some status => status != [' ']

mutual
/-- Whether a node is completed, and so is every task that is reached from it
through tasks. -/
def fullyCompleted : TaskNode → Bool
  | ⟨path, line, lineCount, text, symbol, status, children, sectionLink, parent, blockId, tags⟩ =>
    completed ⟨path, line, lineCount, text, symbol, status, children, sectionLink, parent,
      blockId, tags⟩ && tasksFullyCompleted children

/-- Whether all tasks among some nodes are fully completed. -/
def tasksFullyCompleted : List TaskNode → Bool
  | [] => true
  | n :: rest => (!n.isTask || fullyCompleted n) && tasksFullyCompleted rest
end

mutual
/-- The nodes nested below a node, depth first. -/
def walk : TaskNode → List TaskNode
  | ⟨_, _, _, _, _, _, children, _, _, _, _⟩ => walkAll children

/-- Some nodes, each followed by what is nested below it. -/
def walkAll : List TaskNode → List TaskNode
  | [] => []
  | n :: rest => n :: walk n ++ walkAll rest
end

mutual
/-- Whether two nodes agree in every field, down to the last node below. -/
def same : TaskNode → TaskNode → Bool
  | ⟨path, line, lineCount, text, symbol, status, children, sectionLink, parent, blockId, tags⟩,
    ⟨path', line', lineCount', text', symbol', status', children', sectionLink', parent', blockId',
      tags'⟩ =>
    path = path' && line = line' && lineCount = lineCount' && text = text' && symbol = symbol'
      && status = status' && sameAll children children' && sectionLink = sectionLink'
      && parent = parent' && blockId = blockId' && tags = tags'

/-- Whether two lists of nodes agree one by one. -/
def sameAll : List TaskNode → List TaskNode → Bool
  | [], [] => true
  | n :: rest, n' :: rest' => same n n' && sameAll rest rest'
  | _, _ => false
end

end TaskNode
end NoteVault
