import Std.Time.Zoned
import NoteVault.Command.Line

/-!
# The program

Everything that touches the outside world: the words of the command line, the directory
it is called in, the files of the vault, the clock and the terminal. The files are read
into a tree, the command runs on the tree, and files that have changed are written back,
each to a file beside it first that then takes its place.
-/

namespace NoteVault

/-- The names of a path without dots. -/
def namesOfPath (path : String) : Location :=
  (Text.splitOn '/' path.toList).filter fun name => !name.isEmpty

/-- A location as a path of the operating system. -/
def systemPath (place : Location) : String :=
  if place.isEmpty then "/" else String.ofList (locationPath place)

/-- Whether a command looks into the file at a location. -/
def Command.needs (root : Location) (place : Location) : Command → Bool
  | .sort _ => place = root ++ [Settings.fileName] || isPagePlace (place.drop root.length)
  | .tasks path | .check ⟨path, _, _, _⟩ =>
    place = root ++ [Settings.fileName] || place = resolvePath root path

/-- What stands below a directory. The contents of files that are not needed are left
out. -/
partial def readBelow (needed : Location → Bool) (place : Location) :
    IO (List (Location × FileEntry)) := do
  let directory ← IO.FS.realPath (systemPath place)
  let mut found := []
  for entry in ← directory.readDir do
    let here := place ++ [entry.fileName.toList]
    let link ← entry.path.symlinkMetadata
    if link.type matches .dir then
      found := (here, .directory) :: (← readBelow needed here) ++ found
    else
      try
        let info ← entry.path.metadata
        if info.type matches .dir then
          found := (here, .directory) :: found
        else
          let bytes ← if needed here then IO.FS.readBinFile entry.path else pure .empty
          found := (here, .file bytes info.modified.sec) :: found
      catch _ => pure ()
  return found

/-- Whether there is a directory at a location. -/
def hasDirectory (place : Location) : IO Bool := do
  try
    return (← (← IO.FS.realPath (systemPath place)).metadata).type matches .dir
  catch _ => return false

/-- The location of the vault that a command line names. -/
def locateVault (named : Option Text) : IO (Option Location) := do
  match named with
  | some path =>
    try
      let place := namesOfPath (← IO.FS.realPath (String.ofList path)).toString
      return if ← hasDirectory place then some place else none
    catch _ => return none
  | none =>
    let current := namesOfPath (← IO.currentDir).toString
    let mut markers := []
    for length in List.range (current.length + 1) do
      let marker := current.take length ++ [vaultMarker]
      if ← hasDirectory marker then markers := (marker, FileEntry.directory) :: markers
    return (findVault { entries := markers } current none).toOption.join

/-- Today, by the clock of the system. -/
def today? : IO (Option Date) := do
  let now ← Std.Time.PlainDate.now
  return Date.of? now.year.toInt.toNat now.month.toNat now.day.toNat

/-- Files that differ between two trees are written. -/
def writeChanges (before after : FileTree) : IO Unit :=
  for (place, entry) in after.entries do
    match entry, before.entry? place with
    | .file new _, some (.file old _) =>
      if new.data != old.data then
        let beside := systemPath (FileStore.besides place)
        IO.FS.writeBinFile beside new
        IO.FS.rename beside (systemPath place)
    | _, _ => pure ()

/-- What a command that was stopped says. -/
def CommandError.message : CommandError → Text
  | .vault fault => fault.message
  | .settings error => error.message
  | .order error => error.message
  | .rewrite => "the note cannot be rewritten"
  | .view => "the tasks cannot be shown"
  | .markup fault => fault.message
  | .longInteger _ => longIntegerMessage

/-- A report goes to the terminal. -/
def Report.print (r : Report) : IO UInt32 := do
  IO.print (String.ofList r.output)
  for message in r.messages do IO.eprintln (String.ofList message)
  return UInt32.ofNat r.exitCode

/-- A command line that cannot be followed. -/
def refuse : IO UInt32 := do
  IO.eprint (String.ofList usage)
  return 2

/-- A command runs on the vault at a location. -/
def runOnVault (root : Location) (command : Command) : IO UInt32 := do
  let entries ← readBelow (command.needs root ·) root
  let parents := (List.range root.length).map fun n => (root.take (n + 1), FileEntry.directory)
  let before : FileTree := { entries := parents ++ entries }
  match ← today? with
  | none => return 1
  | some today =>
    match runCommand before root today command with
    | (.error error, _) =>
      if let .longInteger shown := error then IO.print (String.ofList shown)
      IO.eprintln (String.ofList error.message)
      return 1
    | (.ok report, after) =>
      try
        writeChanges before after
        report.print
      catch _ => Report.print { exitCode := 1, messages := ["Failed to write the note"] }

end NoteVault

open NoteVault in
/-- The program. -/
def main (args : List String) : IO UInt32 := do
  match CommandLine.read? (args.map String.toList) with
  | none => refuse
  | some .version => Report.print { output := versionText }
  | some (.run vault command) =>
    match ← locateVault vault with
    | none => refuse
    | some root => runOnVault root command
