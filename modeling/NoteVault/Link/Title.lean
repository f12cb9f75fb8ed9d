import NoteVault.Text.Basic

/-!
# File titles

A file is named in running text by its title: the last component of its path, a
slash of either kind ending a component, without the extension. Dots at the
beginning of a name start no extension.
-/

namespace NoteVault

/-- The last component of a path. -/
def baseName (path : Text) : Text :=
  ((Text.splitWhere (fun c => c = '/' || c = '\\') path).getLast?).getD []

/-- A file name without its extension. -/
def withoutExtension (name : Text) : Text :=
  match Text.splitLast? '.' name with
  | some (stem, _) => if stem.all (· = '.') then name else stem
  | none => name

/-- The title of the file at a path. -/
def fileTitle (path : Text) : Text := withoutExtension (baseName path)

end NoteVault
