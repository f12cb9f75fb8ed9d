import NoteVault.Record.Link

/-!
# Records of tasks

A list item is recorded with all its fields and, one record inside the other, the
items nested below it. Reading needs the path and the line only. The number of
lines and the block identifier are known under a second name each, and an item
that is only said to be a task gets a blank checkbox.

What a reader can work out, whether the item is a task and whether it is
completed, is written as well, and fields without content are not.
-/

namespace NoteVault.TaskNode

/-! ## Writing -/

mutual
/-- The record of an item. -/
def toRecord : TaskNode → List (Key × Value)
  | ⟨path, line, lineCount, text, symbol, status, children, sectionLink, parent, blockId, tags⟩ =>
    [(.string "path", .string path), (.string "line", .int line),
      (.string "lineCount", .int lineCount), (.string "text", .string text),
      (.string "symbol", .string symbol), (.string "task", .bool status.isSome),
      (.string "children", .list (toRecords children))]
    ++ (match status with
      | none => []
      | some s => [(.string "status", .string s), (.string "completed", .bool (s != [' ']))])
    ++ (match sectionLink with
      | none => []
      | some l => [(.string "section", .object l.toRecord)])
    ++ (match parent with
      | none => []
      | some n => [(.string "parent", .int n)])
    ++ (match blockId with
      | none | some [] => []
      | some id => [(.string "blockId", .string id)])
    ++ (if tags.isEmpty then [] else [(.string "tags", .list (tags.map Value.string))])

/-- The records of some items. -/
def toRecords : List TaskNode → List Value
  | [] => []
  | n :: rest => .object (toRecord n) :: toRecords rest
end

/-! ## Reading -/

/-- The section that a record names: a link, or the record of one. -/
def sectionOf : Value → Except RecordError (Option Link)
  | .null => .ok none
  | .link l => .ok (some l)
  | .object entries => do return some (← Link.ofRecord entries)
  | _ => .error .notARecord

/-- The parent line that a record names. -/
def parentOf : Value → Except RecordError (Option Int)
  | .null => .ok none
  | v => do return some (← v.toInteger)

/-- The item with the given fields and the given items below it. -/
def assemble (entries : List (Key × Value)) (children : Except RecordError (List TaskNode)) :
    Except RecordError TaskNode := do
  let field (name : Text) (absent : Value) : Value := (Entries.get? name entries).getD absent
  let required (name : Text) : Except RecordError Value :=
    match Entries.get? name entries with
    | some v => .ok v
    | none => .error (.missing name)
  let path ← (← required "path").asText
  let line ← (← required "line").toInteger
  let lineCount ← (field "lineCount" (field "line_count" (.int 1))).toInteger
  let text ← (field "text" (.string [])).asText
  let symbol ← (field "symbol" (.string ['-'])).asText
  let status ← (field "status" .null).asText?
  let children ← children
  let sectionLink ← sectionOf (field "section" .null)
  let parent ← parentOf (field "parent" .null)
  let blockId ← (field "blockId" (field "block_id" .null)).asText?
  let tags ← (← (field "tags" (.list [])).elements).mapM Value.asText
  let status := match status with
    | none => if (field "task" .null).isSet then some [' '] else none
    | some s => some s
  return ⟨path, line, lineCount, text, symbol, status, children, sectionLink, parent, blockId, tags⟩

mutual
/-- The item with a given record. -/
def ofRecord : Value → Except RecordError TaskNode
  | .object entries => assemble entries (childrenIn entries)
  | _ => .error .notARecord

/-- The items below the one with the given fields. -/
def childrenIn : List (Key × Value) → Except RecordError (List TaskNode)
  | [] => .ok []
  | (k, v) :: rest => if k.same (.string "children") then childrenOf v else childrenIn rest

/-- The items in a sequence of records. -/
def childrenOf : Value → Except RecordError (List TaskNode)
  | .array _ items => ofRecords items
  | .string [] | .object [] => .ok []
  | .string _ | .object _ => .error .notARecord
  | _ => .error .wrongType

/-- The items with given records. -/
def ofRecords : List Value → Except RecordError (List TaskNode)
  | [] => .ok []
  | v :: rest => do
    let n ← ofRecord v
    return n :: (← ofRecords rest)
end

end NoteVault.TaskNode
