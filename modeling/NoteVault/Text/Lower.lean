import NoteVault.Text.Basic
import NoteVault.Text.CaseTable

/-!
# Lower case

The full lower-casing of Unicode: one character becomes one character by the
table of shifts, with two exceptions. `İ` becomes two characters, and a capital
sigma that ends a word becomes the final form `ς`: there is a letter before it,
none after it, and characters without case of their own (an apostrophe, an
accent) are looked past on both sides.
-/

namespace NoteVault.Text

/-- The distance from a code point to that of its lower case, if it has one. -/
def lowerShift? : List (Nat × Nat × Nat × Int) → Nat → Option Int
  | [], _ => none
  | (first, last, step, shift) :: rest, n =>
    if n < first then none
    else if n ≤ last then if (n - first) % step = 0 then some shift else none
    else lowerShift? rest n

/-- The lower case of a character on its own, where that is one character. -/
def lowerChar (c : Char) : Char :=
  match lowerShift? lowerRuns c.toNat with
  | some shift => Char.ofNat (c.toNat + shift).toNat
  | none => c

/-- Whether the nearest character that is not looked past is cased. -/
def meetsCased (s : Text) : Bool :=
  match s.dropWhile fun c => inRanges caseIgnorableRanges c.toNat with
  | [] => false
  | c :: _ => inRanges casedRanges c.toNat

/-- Lower case of the rest of a text; `read` is what stands before it, last
character first. -/
def lowerAfter (read : Text) : Text → Text
  | [] => []
  | c :: rest =>
    let low :=
      if c = 'İ' then ['i', '\u0307']
      else if c = 'Σ' then [if meetsCased read && !meetsCased rest then 'ς' else 'σ']
      else [lowerChar c]
    low ++ lowerAfter (c :: read) rest

/-- A text in lower case. -/
def lower (s : Text) : Text := lowerAfter [] s

end NoteVault.Text
