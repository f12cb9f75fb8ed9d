import NoteVault.Text.Basic

/-!
# Settings

How results are shown, and whether the completion of tasks is tracked. A vault may
set each of them; the defaults hold for the rest.
-/

namespace NoteVault

/-- The settings of a vault. -/
structure Settings where
  /-- What stands for a missing value. -/
  nullText : Text := "\\-"
  /-- Whether an empty result says so. -/
  warnsOnEmpty : Bool := true
  /-- The pattern of dates without a time. -/
  datePattern : Text := "%B %d, %Y"
  /-- The pattern of dates with a time. -/
  dateTimePattern : Text := "%I:%M %p - %B %d, %Y"
  /-- Whether completing a task puts the date into its text. -/
  tracksCompletion : Bool := false
  /-- The name of the field with that date. -/
  completionField : Text := "completion"
  deriving DecidableEq

/-- The settings of a vault that sets nothing. -/
def Settings.default : Settings := {}

end NoteVault
