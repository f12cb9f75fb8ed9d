import NoteVault.Text.Quoted
import NoteVault.Text.Utf8

/-!
# Document stores

A store holds whole documents under paths. Reading a document can leave a trace in
the store, so both operations return the store as it is afterwards. An operation
that fails says why.
-/

namespace NoteVault

/-- Why a file system refuses an operation. -/
inductive FileFault where
  /-- There is nothing at the path. -/
  | missing
  /-- Something above the path is a file. -/
  | notADirectory
  /-- There is a directory at the path. -/
  | isDirectory
  /-- A name in the path is too long. -/
  | nameTooLong
  deriving DecidableEq

/-- The number of the fault. -/
def FileFault.number : FileFault → Nat
  | .missing => 2
  | .notADirectory => 20
  | .isDirectory => 21
  | .nameTooLong => 36

/-- The fault in words. -/
def FileFault.name : FileFault → Text
  | .missing => "No such file or directory"
  | .notADirectory => "Not a directory"
  | .isDirectory => "Is a directory"
  | .nameTooLong => "File name too long"

/-- Why a store refuses an operation. -/
inductive StoreError where
  /-- There is no document at this path. -/
  | missing (path : Text)
  /-- The file system refuses; the path of the file, and the one to which it was to move. -/
  | file (fault : FileFault) (path : Text) (target : Option Text)
  /-- The document is not UTF-8. -/
  | notText (fault : Utf8Fault)
  /-- The path leads out of the vault. -/
  | escapes (path : Text)
  /-- The path holds the character U+0000. -/
  | nullInPath
  /-- The path leads to the root of the file system, which has no name. -/
  | unnamed
  deriving DecidableEq

/-- The error as a message. -/
def StoreError.message : StoreError → Text
  | .missing path => path
  | .file fault path target =>
    "[Errno " ++ Text.ofNat fault.number ++ "] " ++ fault.name ++ ": " ++ Text.quoted path
      ++ (match target with
        | some target => " -> " ++ Text.quoted target
        | none => [])
  | .notText fault => fault.message
  | .escapes path => "Path escapes the vault: " ++ path
  | .nullInPath => "embedded null byte"
  | .unnamed => "PosixPath('/') has an empty name"

/-- Documents under paths. -/
class DocumentStore (σ : Type) where
  /-- The document at a path, and the store after it was read. -/
  read : σ → Text → Except StoreError Text × σ
  /-- The store after a document was put at a path. -/
  write : σ → Text → Text → Except StoreError Unit × σ

end NoteVault
