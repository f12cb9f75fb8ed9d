import NoteVault.Text.Basic

/-!
# Scanning for marks

Some marks, such as links, may stand anywhere in a text. A *recogniser* says
whether a mark stands at the beginning of a text, and what follows it. `scan`
tries it at every position from the left and goes on after each mark it finds, so
the marks it returns never overlap. `replace` goes the same way and puts another text
in the place of each mark.

The recursion is on the text itself: after a mark, the characters that belong to
it are counted down and skipped.
-/

namespace NoteVault

/-- Something found in a text, from position `start` up to `stop`. -/
structure Found (α : Type) where
  /-- What was found. -/
  value : α
  /-- The position of its first character. -/
  start : Nat
  /-- The position after its last character. -/
  stop : Nat

namespace Text

/-- The marks in the rest of a text that begins at position `pos`, its first
`skip` characters being part of a mark already found. -/
def scanFrom {α : Type} (recognise : Text → Option (α × Text)) :
    (pos skip : Nat) → Text → List (Found α)
  | _, _, [] => []
  | pos, skip + 1, _ :: rest => scanFrom recognise (pos + 1) skip rest
  | pos, 0, c :: rest =>
    match recognise (c :: rest) with
    | none => scanFrom recognise (pos + 1) 0 rest
    | some (value, after) =>
      let size := rest.length + 1 - after.length
      ⟨value, pos, pos + size⟩ :: scanFrom recognise (pos + 1) (size - 1) rest

/-- The marks in a text, from left to right. -/
def scan {α : Type} (recognise : Text → Option (α × Text)) (s : Text) : List (Found α) :=
  scanFrom recognise 0 0 s

/-- In a text that is part of a mark already found nothing more is found. -/
theorem scanFrom_length {α : Type} (recognise : Text → Option (α × Text)) (pos : Nat) (s : Text) :
    scanFrom recognise pos s.length s = [] := by
  induction s generalizing pos with
  | nil => rfl
  | cons c rest ih => exact ih (pos + 1)

/-- **A text that is one mark** has this mark. -/
theorem scan_of_whole {α : Type} {recognise : Text → Option (α × Text)} {s : Text} {value : α}
    (hne : s ≠ []) (h : recognise s = some (value, [])) :
    scan recognise s = [⟨value, 0, s.length⟩] := by
  cases s with
  | nil => exact absurd rfl hne
  | cons c rest =>
    have hrest : scanFrom recognise 1 rest.length rest = [] := scanFrom_length recognise 1 rest
    unfold scan scanFrom
    rw [h]
    simp [hrest]

/-- The rest of a text with other texts in the place of the marks, its first `skip`
characters being part of a mark that has been replaced. -/
def replaceFrom (recognise : Text → Option (Text × Text)) : (skip : Nat) → Text → Text
  | _, [] => []
  | skip + 1, _ :: rest => replaceFrom recognise skip rest
  | 0, c :: rest =>
    match recognise (c :: rest) with
    | none => c :: replaceFrom recognise 0 rest
    | some (replaced, after) => replaced ++ replaceFrom recognise (rest.length - after.length) rest

/-- A text with another text in the place of every mark. -/
def replace (recognise : Text → Option (Text × Text)) (s : Text) : Text :=
  replaceFrom recognise 0 s

end Text
end NoteVault
