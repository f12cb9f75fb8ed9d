import NoteVault.Proofs.Link.Derivation
import NoteVault.Proofs.Task.Walk
import NoteVault.Record.Task

/-!
# Tasks and their records

A list item is written as a record and read back. Four kinds of fields are told apart by how they
are left out: some never, some when they are missing, tags when there are none, and a block
identifier also when it is empty. The last is the one thing that is lost, since reading cannot know
whether an identifier was empty or missing.

What is written besides the fields, whether the item is a task and whether it is completed, is
either not read or only where there is no status, and then it says that there is no task.

## Main results

* `TaskNode.toRecord_eq` — a record as a list of entries, some of which may be missing.
* `TaskNode.Describes.assemble_eq` — a node is put together from entries that describe it.
* `TaskNode.ofRecords_toRecords` — records are read at any depth.
* `TaskNode.readBack_toRecord` — the record of a node gives it back without empty identifiers.
-/

namespace NoteVault

/-! ## Entries that may be missing -/

namespace Entries

variable {α : Type}

/-- The entry of a field that may be missing. -/
def optional (name : Text) (v : Option α) : List (Key × α) := v.toList.map fun v => (.string name, v)

theorem get?_append (name : Text) (entries rest : List (Key × α)) :
    get? name (entries ++ rest) = (get? name entries).or (get? name rest) := by
  induction entries with
  | nil => rfl
  | cons entry entries ih =>
      obtain ⟨k, v⟩ := entry
      rw [List.cons_append, get?, get?, ih]
      split <;> rfl

theorem get?_optional (name key : Text) (v : Option α) :
    get? name (optional key v) = if key = name then v else none := by
  cases v with
  | none => exact (ite_self none).symm
  | some v => exact get?_string_cons name key v []

end Entries

namespace TaskNode

/-! ## Nodes without empty identifiers -/

/-- The block identifier of a node, if it is not empty. -/
def filledId? (n : TaskNode) : Option Text := n.blockId.filter fun id => !id.isEmpty

mutual
/-- The node with missing identifiers in the place of empty ones, at any depth. -/
def withoutEmptyIds : TaskNode → TaskNode
  | ⟨path, line, lineCount, text, symbol, status, children, sectionLink, parent, blockId, tags⟩ =>
    ⟨path, line, lineCount, text, symbol, status, allWithoutEmptyIds children, sectionLink, parent,
      blockId.filter fun id => !id.isEmpty, tags⟩

/-- The same for some nodes. -/
def allWithoutEmptyIds : List TaskNode → List TaskNode
  | [] => []
  | n :: rest => withoutEmptyIds n :: allWithoutEmptyIds rest
end

theorem withoutEmptyIds_eq (n : TaskNode) : n.withoutEmptyIds =
    { n with children := allWithoutEmptyIds n.children, blockId := n.filledId? } := by
  cases n
  rfl

theorem allWithoutEmptyIds_eq_map (ns : List TaskNode) :
    allWithoutEmptyIds ns = ns.map withoutEmptyIds := by
  induction ns with
  | nil => rfl
  | cons n rest ih => rw [allWithoutEmptyIds, ih, List.map_cons]

theorem completed_withoutEmptyIds (n : TaskNode) : n.withoutEmptyIds.completed = n.completed := by
  cases n
  rfl

theorem tasksFullyCompleted_withoutEmptyIds (ns : List TaskNode) :
    tasksFullyCompleted (ns.map withoutEmptyIds) = tasksFullyCompleted ns := by
  induction ns using forestInduction with
  | nil => rfl
  | cons n rest ihBelow ihRest =>
      have htask : n.withoutEmptyIds.isTask = n.isTask := by rw [withoutEmptyIds_eq]; rfl
      rw [List.map_cons, tasksFullyCompleted, tasksFullyCompleted, fullyCompleted_eq,
        fullyCompleted_eq, completed_withoutEmptyIds, htask, ihRest, withoutEmptyIds_eq]
      dsimp only
      rw [allWithoutEmptyIds_eq_map, ihBelow]

theorem walkAll_withoutEmptyIds (ns : List TaskNode) :
    walkAll (ns.map withoutEmptyIds) = (walkAll ns).map withoutEmptyIds := by
  induction ns using forestInduction with
  | nil => rfl
  | cons n rest ihBelow ihRest =>
      have hchildren : n.withoutEmptyIds.children = n.children.map withoutEmptyIds := by
        rw [withoutEmptyIds_eq, ← allWithoutEmptyIds_eq_map]
      rw [List.map_cons, walkAll_cons, walkAll_cons, hchildren, ihBelow, ihRest, List.cons_append,
        List.cons_append, List.map_cons, List.map_append]

theorem filledId?_eq_iff (n : TaskNode) : n.filledId? = n.blockId ↔ n.blockId ≠ some [] := by
  unfold filledId?
  rcases n.blockId with _ | _ | _ <;> simp

/-- Nodes stay what they are exactly if no identifier at any depth is empty. -/
theorem map_withoutEmptyIds_eq_iff (ns : List TaskNode) :
    ns.map withoutEmptyIds = ns ↔ ∀ d ∈ walkAll ns, d.blockId ≠ some [] := by
  induction ns using forestInduction with
  | nil => simp
  | cons n rest ihBelow ihRest =>
      have hn : n.withoutEmptyIds = n ↔
          n.filledId? = n.blockId ∧ n.children.map withoutEmptyIds = n.children := by
        rw [withoutEmptyIds_eq, allWithoutEmptyIds_eq_map]
        obtain ⟨path, line, lineCount, text, symbol, status, children, sectionLink, parent,
          blockId, tags⟩ := n
        simp [and_comm]
      rw [List.map_cons, List.cons.injEq, hn, filledId?_eq_iff, ihBelow, ihRest, walkAll_cons,
        List.cons_append, List.forall_mem_cons, List.forall_mem_append, and_assoc]

/-! ## The entries of a record -/

/-- The tags of a node as a value, if there are any. -/
def tagsValue? (n : TaskNode) : Option Value :=
  if n.tags.isEmpty then none else some (.list (n.tags.map Value.string))

/-- The entries that every record has. -/
def fixedEntries (n : TaskNode) : List (Key × Value) :=
  [(.string "path", .string n.path), (.string "line", .int n.line),
    (.string "lineCount", .int n.lineCount), (.string "text", .string n.text),
    (.string "symbol", .string n.symbol), (.string "task", .bool n.isTask),
    (.string "children", .list (toRecords n.children))]

/-- **A record as a list of entries**, some of which may be missing. -/
theorem toRecord_eq (n : TaskNode) : n.toRecord = n.fixedEntries
    ++ (Entries.optional "status" (n.status.map Value.string)
      ++ Entries.optional "completed" (n.status.map fun _ => Value.bool n.completed))
    ++ Entries.optional "section" (n.sectionLink.map fun l => Value.object l.toRecord)
    ++ Entries.optional "parent" (n.parent.map Value.int)
    ++ Entries.optional "blockId" (n.filledId?.map Value.string)
    ++ Entries.optional "tags" n.tagsValue? := by
  obtain ⟨path, line, lineCount, text, symbol, status, children, sectionLink, parent, blockId,
    tags⟩ := n
  cases status <;> cases sectionLink <;> cases parent <;> rcases blockId with _ | _ | _ <;>
    cases tags <;> rfl

/-- What entries say of a node, apart from the nodes below it. -/
structure Describes (entries : List (Key × Value)) (n : TaskNode) : Prop where
  /-- The path. -/
  path : Entries.get? "path" entries = some (.string n.path)
  /-- The line. -/
  line : Entries.get? "line" entries = some (.int n.line)
  /-- The number of lines. -/
  lineCount : Entries.get? "lineCount" entries = some (.int n.lineCount)
  /-- The text. -/
  text : Entries.get? "text" entries = some (.string n.text)
  /-- The marker. -/
  symbol : Entries.get? "symbol" entries = some (.string n.symbol)
  /-- Whether it is a task. -/
  task : Entries.get? "task" entries = some (.bool n.isTask)
  /-- The checkbox, if there is one. -/
  status : Entries.get? "status" entries = n.status.map .string
  /-- The section, if there is one. -/
  sectionLink : Entries.get? "section" entries = n.sectionLink.map fun l => .object l.toRecord
  /-- The parent, if there is one. -/
  parent : Entries.get? "parent" entries = n.parent.map .int
  /-- The block identifier, if it is not empty. -/
  blockId : Entries.get? "blockId" entries = n.filledId?.map .string
  /-- No block identifier under the other name. -/
  otherBlockId : Entries.get? "block_id" entries = none
  /-- The tags, if there are any. -/
  tags : Entries.get? "tags" entries = n.tagsValue?

/-- A record describes its node. -/
theorem describes_toRecord (n : TaskNode) : Describes n.toRecord n := by
  constructor <;>
    simp [toRecord_eq, fixedEntries, Entries.get?_append, Entries.get?_string_cons,
      Entries.get?_optional]

theorem asText?_map_string (s : Option Text) :
    ((s.map Value.string).getD .null).asText? = .ok s := by
  cases s <;> rfl

theorem sectionOf_map_object (l : Option Link) :
    sectionOf ((l.map fun l => .object l.toRecord).getD .null) = .ok l := by
  cases l with
  | none => rfl
  | some l =>
      show (do return some (← Link.ofRecord l.toRecord)) = _
      rw [Link.ofRecord_toRecord]
      rfl

theorem parentOf_map_int (n : Option Int) :
    parentOf ((n.map Value.int).getD .null) = .ok n := by
  cases n <;> rfl

/-- No tags are an empty list of them. -/
theorem elements_tagsValue? (n : TaskNode) :
    (n.tagsValue?.getD (.list [])).elements = .ok (n.tags.map Value.string) := by
  unfold tagsValue?
  split
  · next h =>
      rw [List.isEmpty_iff.mp h]
      rfl
  · rfl

theorem mapM_asText (texts : List Text) :
    (texts.map Value.string).mapM Value.asText = .ok texts := by
  induction texts with
  | nil => rfl
  | cons s texts ih =>
      rw [List.map_cons, List.mapM_cons, ih]
      rfl

/-- **A node is put together** from entries that describe it and the nodes below it. -/
theorem Describes.assemble_eq {entries : List (Key × Value)} {n : TaskNode}
    (h : Describes entries n) (below : List TaskNode) :
    assemble entries (.ok below) = .ok { n with children := below, blockId := n.filledId? } := by
  unfold assemble
  simp only [h.path, h.line, h.lineCount, h.text, h.symbol, h.task, h.status, h.sectionLink,
    h.parent, h.blockId, h.otherBlockId, h.tags, Option.getD_some, Option.getD_none, Bind.bind,
    Except.bind, Pure.pure, Except.pure, Value.asText, Value.int, Value.toInteger,
    asText?_map_string, sectionOf_map_object, parentOf_map_int, elements_tagsValue?, mapM_asText]
  cases hstatus : n.status with
  | none =>
      -- without a status the record does not say that there is a task
      have htask : n.isTask = false := by rw [isTask, hstatus]; rfl
      rw [htask]
      rfl
  | some s => rfl

/-! ## Reading a record -/

theorem childrenIn_toRecord (n : TaskNode) :
    childrenIn n.toRecord = ofRecords (toRecords n.children) := by
  obtain ⟨path, line, lineCount, text, symbol, status, children, sectionLink, parent, blockId,
    tags⟩ := n
  rfl

/-- A record is read if the records in it are. -/
theorem ofRecord_object_toRecord {n : TaskNode}
    (h : ofRecords (toRecords n.children) = .ok (n.children.map withoutEmptyIds)) :
    ofRecord (.object n.toRecord) = .ok n.withoutEmptyIds := by
  rw [ofRecord, childrenIn_toRecord, h, n.describes_toRecord.assemble_eq, withoutEmptyIds_eq,
    allWithoutEmptyIds_eq_map]

theorem ofRecords_toRecords (ns : List TaskNode) :
    ofRecords (toRecords ns) = .ok (ns.map withoutEmptyIds) := by
  induction ns using forestInduction with
  | nil => rfl
  | cons n rest ihBelow ihRest =>
      rw [toRecords, ofRecords, ofRecord_object_toRecord ihBelow, ihRest]
      rfl

/-- What comes back from the record of a node. -/
structure ReadBack (n m : TaskNode) : Prop where
  /-- All fields at every depth are as they were, but for empty block identifiers. -/
  eq : m = n.withoutEmptyIds
  /-- If there are none, nothing has changed, and only then. -/
  eq_iff : m = n ↔ ∀ d ∈ n :: n.walk, d.blockId ≠ some []
  /-- It is a task if it was one. -/
  isTask : m.isTask = n.isTask
  /-- It is completed if it was. -/
  completed : m.completed = n.completed
  /-- So are the tasks below it. -/
  fullyCompleted : m.fullyCompleted = n.fullyCompleted
  /-- It is known by the same identifier. -/
  id : m.id = n.id
  /-- Walking down meets the same nodes, but for empty block identifiers. -/
  walk : m.walk = n.walk.map withoutEmptyIds

theorem readBack_withoutEmptyIds (n : TaskNode) : ReadBack n n.withoutEmptyIds where
  eq := rfl
  eq_iff := by
    have h := map_withoutEmptyIds_eq_iff [n]
    rwa [List.map_singleton, List.singleton_inj, walkAll_cons, walkAll_nil, List.append_nil,
      ← walk_eq] at h
  isTask := by rw [withoutEmptyIds_eq]; rfl
  completed := n.completed_withoutEmptyIds
  fullyCompleted := by
    rw [fullyCompleted_eq, fullyCompleted_eq, completed_withoutEmptyIds, withoutEmptyIds_eq]
    dsimp only
    rw [allWithoutEmptyIds_eq_map, tasksFullyCompleted_withoutEmptyIds]
  id := by rw [withoutEmptyIds_eq]; rfl
  walk := by
    rw [walk_eq, walk_eq, withoutEmptyIds_eq]
    dsimp only
    rw [allWithoutEmptyIds_eq_map, walkAll_withoutEmptyIds]

/-- **The record of a node gives it back**, at any depth, without empty block identifiers. -/
theorem readBack_toRecord (n : TaskNode) :
    ∃ m, ofRecord (.object n.toRecord) = .ok m ∧ ReadBack n m :=
  ⟨n.withoutEmptyIds, ofRecord_object_toRecord (ofRecords_toRecords n.children),
    n.readBack_withoutEmptyIds⟩

end TaskNode
end NoteVault
