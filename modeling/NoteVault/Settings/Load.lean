import NoteVault.Settings.Basic
import NoteVault.Store.FileTree
import NoteVault.Text.Lines
import NoteVault.Toml.Read

/-!
# Settings of a vault

A vault can hold a file `.vaultquery.toml` with settings, at its outermost level or in
the table `query`, which wins. Other entries do not matter. A setting must have the type
of its default.
-/

namespace NoteVault

/-- Why the settings of a vault cannot be read. -/
inductive SettingsError where
  /-- The file cannot be read. -/
  | store (error : StoreError)
  /-- The text of the file cannot be read. -/
  | document (error : TomlError)
  /-- A setting has the wrong type; the names of the setting, of the type it must have
  and of the one it has. -/
  | wrongType (name expected found : Text)
  deriving DecidableEq

/-- The error as a message. -/
def SettingsError.message : SettingsError → Text
  | .store error => error.message
  | .document error => error.message
  | .wrongType name expected found =>
    name ++ " must be a " ++ expected ++ ", got " ++ found

/-- The name of the type of a value in a settings file. -/
def Toml.typeName : Toml → Text
  | .string _ => "str"
  | .integer _ => "int"
  | .float _ => "float"
  | .bool _ => "bool"
  | .date _ => "date"
  | .dateTime _ => "datetime"
  | .time _ => "time"
  | .array _ => "list"
  | .table _ => "dict"

namespace Settings

/-- The entry of a table that is the value of a setting. Tables at the outermost level
are no settings. -/
def entry? (name : Text) (document : List (Text × Toml)) : Option Toml :=
  let inQuery := match document.lookup ("query" : Text) with
    | some (.table entries) => entries.lookup name
    | _ => none
  match inQuery, document.lookup name with
  | some v, _ => some v
  | none, some (.table _) => none
  | none, found => found

/-- A setting that is a text. -/
def textEntry (document : List (Text × Toml)) (name default : Text) :
    Except SettingsError Text :=
  match entry? name document with
  | none => .ok default
  | some (.string s) => .ok s
  | some v => .error (.wrongType name "str" v.typeName)

/-- A setting that is a truth value. -/
def boolEntry (document : List (Text × Toml)) (name : Text) (default : Bool) :
    Except SettingsError Bool :=
  match entry? name document with
  | none => .ok default
  | some (.bool b) => .ok b
  | some v => .error (.wrongType name "bool" v.typeName)

/-- The settings that a document makes. -/
def ofToml (document : List (Text × Toml)) : Except SettingsError Settings := do
  let d := Settings.default
  return {
    nullText := ← textEntry document "render_null_as" d.nullText
    warnsOnEmpty := ← boolEntry document "warn_on_empty_result" d.warnsOnEmpty
    datePattern := ← textEntry document "default_date_format" d.datePattern
    dateTimePattern := ← textEntry document "default_date_time_format" d.dateTimePattern
    tracksCompletion := ← boolEntry document "task_completion_tracking" d.tracksCompletion
    completionField := ← textEntry document "task_completion_text" d.completionField }

/-- The name of the file with the settings of a vault. -/
def fileName : Text := ".vaultquery.toml"

/-- The settings that the vault at a location makes, if it has a file for them. -/
def load? (t : FileTree) (root : Location) : Except SettingsError (Option Settings) :=
  let place := root ++ [fileName]
  match t.locate place with
  | .error _ => .ok none
  | .ok _ => do
    let text ← (t.readText place).mapError .store
    let document ← (Toml.ofText (Text.unifyLineEnds text)).mapError .document
    return some (← ofToml document)

/-- The settings of the vault at a location. -/
def load (t : FileTree) (root : Location) : Except SettingsError Settings :=
  (load? t root).map (·.getD .default)

end Settings
end NoteVault
