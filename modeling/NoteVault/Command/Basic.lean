import NoteVault.Notice.Markup
import NoteVault.Settings.Load
import NoteVault.Vault.Load

/-!
# Commands

A command looks at a vault, possibly changes it, and reports: text for its user, messages
beside it, and whether it has done what it should. `CommandError` is what stops a command
before it can report anything.
-/

namespace NoteVault

/-- What a command reports. -/
structure Report where
  /-- Zero if the command has done what it should. -/
  exitCode : Nat := 0
  /-- The text that was asked for. -/
  output : Text := []
  /-- Messages about the work itself. -/
  messages : List Text := []
  deriving DecidableEq

/-- What is wrong with the path of a vault, other than that no directory is there. -/
inductive VaultFault where
  /-- It holds the character U+0000. -/
  | nullInPath
  /-- A name in it is too long. -/
  | nameTooLong
  deriving DecidableEq

/-- The fault as a message. -/
def VaultFault.message : VaultFault → Text
  | .nullInPath => "embedded null byte"
  | .nameTooLong => FileFault.nameTooLong.name

/-- What stops a command. -/
inductive CommandError where
  /-- The path of the vault cannot be followed. -/
  | vault (fault : VaultFault)
  /-- The settings of the vault cannot be read. -/
  | settings (error : SettingsError)
  /-- Values cannot be compared. -/
  | order (error : OrderError)
  /-- A note cannot be rewritten for another reason than its file. -/
  | rewrite
  /-- Tasks cannot be shown. -/
  | view
  /-- The markup of a message is wrong. -/
  | markup (fault : MarkupFault)
  /-- An integer has too many digits to be shown; what was shown before it. -/
  | longInteger (shown : Text)
  deriving DecidableEq

/-- A report that a command has failed, with one message, which can have markup. -/
def Report.failure (message : Text) : Except CommandError Report :=
  ((Notice.ofMarkup message).mapError .markup).map fun shown =>
    { exitCode := 1, messages := [shown] }

/-- The message that a note cannot be read. -/
def cannotRead (path : Text) (reason : StoreError) : Text :=
  "Cannot read " ++ path ++ ": " ++ reason.message

/-- The message that a note cannot be written. -/
def cannotWrite (path : Text) (reason : StoreError) : Text :=
  "Failed to write " ++ path ++ ": " ++ reason.message

end NoteVault
