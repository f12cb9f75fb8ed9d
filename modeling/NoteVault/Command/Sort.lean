import NoteVault.Command.Basic
import NoteVault.Json.Basic
import NoteVault.Value.Display
import NoteVault.Value.Grouping

/-!
# The command `sort`

Shows the pages of a vault in the order of a field, if wanted in groups by another one.
Groups are in the order of their keys whichever way the pages are sorted, and the pages
of a group stay in the order asked for.

The result is shown as tables of markdown, under headings where there are groups, or as
JSON, where every page gives its path and its value of the field.
-/

namespace NoteVault

/-- What is asked of the command. -/
structure SortRequest where
  /-- The field that orders the pages. -/
  field : Text
  /-- The field that groups the pages. -/
  groupField : Option Text := none
  /-- The order is to be backwards. -/
  descending : Bool := false
  /-- The result is to be JSON. -/
  asJson : Bool := false
  deriving DecidableEq

/-- Pages in order, and in groups if a field for them is named. -/
def arrangePages (r : SortRequest) (pages : List Page) : Except OrderError (Grouping Page) := do
  let ordered ← sortPages r.field r.descending pages
  match r.groupField with
  | none | some [] => return .flat ordered
  | some name => groupBy (·.get name) ordered

/-! ## As JSON -/

/-- A value in JSON; what JSON lacks is shown as in a note. -/
def valueJson (settings : Settings) (v : Value) : Json := Json.ofValue (Value.toText settings) v

/-- A page in JSON. -/
def pageJson (settings : Settings) (field : Text) (p : Page) : Json :=
  Json.ofFields [("path", .string p.path), (field, valueJson settings (p.get field))]

mutual
/-- Grouped pages in JSON. -/
def groupingJson (settings : Settings) (field : Text) : Grouping Page → Json
  | .flat pages => .array (pages.map (pageJson settings field))
  | .grouped groups => .array (groupsJson settings field groups)

/-- Groups of pages in JSON. -/
def groupsJson (settings : Settings) (field : Text) : List (Value × Grouping Page) → List Json
  | [] => []
  | (key, rows) :: rest =>
    Json.ofFields [("key", valueJson settings key), ("rows", groupingJson settings field rows)]
      :: groupsJson settings field rest
end

/-! ## As markdown -/

/-- A line of a table with two cells. -/
def tableRow (first second : Text) : Text := "| " ++ first ++ " | " ++ second ++ " |\n"

/-- A value as it is shown in a table or a heading, if it can be. -/
def shownValue? (settings : Settings) (v : Value) : Option Text :=
  if v.isShowable then some (v.headingText settings) else none

/-- A heading and the blank line after it. -/
def headingLines (heading : Text) : Text := "## " ++ heading ++ "\n\n"

/-- The pieces of the table of some pages. A row whose value cannot be shown is missing. -/
def pageTable (settings : Settings) (field : Text) (pages : List Page) : List (Option Text) :=
  some (tableRow "File" field ++ "| --- | --- |\n")
    :: pages.map fun p => (shownValue? settings (p.get field)).map (tableRow p.link.markdown)

mutual
/-- Grouped pages as tables, in pieces. -/
def groupingTables (settings : Settings) (field : Text) : Grouping Page → List (Option Text)
  | .flat pages => pageTable settings field pages
  | .grouped groups => groupTables settings field groups

/-- Groups of pages as tables under headings, in pieces. -/
def groupTables (settings : Settings) (field : Text) :
    List (Value × Grouping Page) → List (Option Text)
  | [] => []
  | (key, rows) :: rest =>
    (shownValue? settings key).map headingLines
      :: groupingTables settings field rows ++ some ['\n'] :: groupTables settings field rest
end

/-! ## The command -/

/-- The pieces of what grouped pages look like. -/
def showPages (settings : Settings) (r : SortRequest) (pages : Grouping Page) :
    List (Option Text) :=
  if r.asJson then
    let j := groupingJson settings r.field pages
    [if j.isWritable then some (j.text ++ ['\n']) else none]
  else groupingTables settings r.field pages

/-- The report that pieces make, up to one that is missing. -/
def reportPieces (pieces : List (Option Text)) : Except CommandError Report :=
  let shown := ((pieces.takeWhile (·.isSome)).flatMap (·.toList)).flatten
  if pieces.all (·.isSome) then .ok { output := shown } else .error (.longInteger shown)

/-- Shows the pages of the vault at a location. -/
def runSort (t : FileTree) (root : Location) (r : SortRequest) : Except CommandError Report := do
  let settings ← (Settings.load t root).mapError .settings
  match loadPages t root with
  | [] => return { messages := ["No notes found."] }
  | pages =>
    let arranged ← (arrangePages r pages).mapError .order
    reportPieces (showPages settings r arranged)

end NoteVault
