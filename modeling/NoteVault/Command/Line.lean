import NoteVault.Command.Arguments
import NoteVault.Command.Check
import NoteVault.Command.Sort
import NoteVault.Command.Tasks

/-!
# The command line

`vaultquery [--vault DIR] sort|tasks|check …` runs one command on one vault. Without a
vault it is the nearest directory around the current one that holds a directory
`.obsidian`, or the current one itself. A command line that cannot be understood, or that
names no vault, is reported with the exit code 2 and nothing else.

## Main definitions

* `CommandLine.read?` — what a command line asks for.
* `findVault` — the location of the vault.
* `runCommandLine` — the report, and the files afterwards.
-/

namespace NoteVault

/-- A command with what is asked of it. -/
inductive Command where
  /-- Shows pages in order. -/
  | sort (request : SortRequest)
  /-- Shows the tasks of a note. -/
  | tasks (path : Text)
  /-- Edits the list item on a line of a note. -/
  | check (request : CheckRequest)

/-- What a command line asks for. -/
inductive CommandLine where
  /-- The version of the program. -/
  | version
  /-- A command on a vault. -/
  | run (vault : Option Text) (command : Command)

/-- How to use the program. -/
def usage : Text :=
  "Usage: vaultquery [--vault DIR] [--verbose] sort FIELD [--group-by FIELD] [--desc] [--json]\n"
    ++ "       vaultquery [--vault DIR] [--verbose] tasks FILE\n"
    ++ "       vaultquery [--vault DIR] [--verbose] check FILE LINE [--status S] [--text T]\n"

/-- The version of the program as it is shown. -/
def versionText : Text := "vaultquery, version 0.1.0\n"

namespace Command

/-- The command `sort` with its options. -/
def readSort? (words : List Text) : Option Command := do
  let a ← Arguments.read?
    [{ name := "--group-by", takesValue := true }, { name := "--desc" }, { name := "--json" }]
    true words
  match a.positional with
  | [field] => some (.sort ⟨field, a.value? "--group-by", a.has "--desc", a.has "--json"⟩)
  | _ => none

/-- The command `tasks`. -/
def readTasks? (words : List Text) : Option Command := do
  match (← Arguments.read? [] true words).positional with
  | [path] => some (.tasks path)
  | _ => none

/-- The command `check` with its options. -/
def readCheck? (words : List Text) : Option Command := do
  let a ← Arguments.read?
    [{ name := "--status", takesValue := true }, { name := "--text", takesValue := true }]
    true words
  let status := a.value? "--status"
  match a.positional with
  | [path, line] => do
    let line ← (readInteger line).toOption
    if 1 < (status.getD []).length then none
    return .check ⟨path, line, status, a.value? "--text"⟩
  | _ => none

/-- A command by its name. -/
def read? (name : Text) (words : List Text) : Option Command :=
  match String.ofList name with
  | "sort" => readSort? words
  | "tasks" => readTasks? words
  | "check" => readCheck? words
  | _ => none

end Command

/-- What a command line asks for, if it can be understood. -/
def CommandLine.read? (words : List Text) : Option CommandLine := do
  let a ← Arguments.read?
    [{ name := "--vault", letter := some 'v', takesValue := true }, { name := "--verbose" },
      { name := "--version" }]
    false words
  if a.has "--version" then return .version
  match a.positional with
  | [] => none
  | name :: words => return .run (a.value? "--vault") (← Command.read? name words)

/-! ## The vault -/

/-- The name of the directory that marks a vault. -/
def vaultMarker : Text := ".obsidian"

/-- The nearest directory at or above a location that holds a directory `.obsidian`. -/
def nearestVault? (t : FileTree) (place : Location) : Option Location :=
  let above := (List.range (place.length + 1)).reverse.map place.take
  above.find? fun p => t.entry? (p ++ [vaultMarker]) matches some .directory

/-- The location of the vault at a path, seen from a directory, if a directory is there. -/
def vaultAt (t : FileTree) (current : Location) (path : Text) :
    Except VaultFault (Option Location) :=
  let names := (Text.splitOn '/' path).filter fun name => !name.isEmpty && name != ['.']
  let start := if path.head? = some '/' then [] else current
  if path.contains '\x00' then .error .nullInPath
  else
    match t.locate (start ++ names) with
    | .ok .directory => .ok (some (followNames start names))
    | .error .nameTooLong => .error .nameTooLong
    | .ok (.file _ _) | .error _ => .ok none

/-- The location of the vault that a command line names, seen from a directory. -/
def findVault (t : FileTree) (current : Location) : Option Text →
    Except VaultFault (Option Location)
  | none => .ok (some ((nearestVault? t current).getD current))
  | some path => vaultAt t current path

/-! ## Running -/

/-- The report of a command line that cannot be followed. -/
def usageReport : Report := { exitCode := 2 }

/-- Runs a command on the vault at a location. -/
def runCommand (t : FileTree) (root : Location) (today : Date) :
    Command → Except CommandError Report × FileTree
  | .sort request => (runSort t root request, t)
  | .tasks path => (runTasks ⟨t, root⟩ path, t)
  | .check request =>
    let (report, store) := runCheck ⟨t, root⟩ today request
    (report, store.tree)

/-- Runs a command line in a directory. -/
def runCommandLine (t : FileTree) (current : Location) (today : Date) (words : List Text) :
    Except CommandError Report × FileTree :=
  match CommandLine.read? words with
  | none => (.ok usageReport, t)
  | some .version => (.ok { output := versionText }, t)
  | some (.run vault command) =>
    match findVault t current vault with
    | .error fault => (.error (.vault fault), t)
    | .ok none => (.ok usageReport, t)
    | .ok (some root) => runCommand t root today command

end NoteVault
