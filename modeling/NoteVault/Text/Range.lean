/-!
# Classes of characters as ranges

A class of characters that a standard defines by enumeration is kept as the
increasing list of its maximal ranges of code points. `inRanges` looks a code
point up and stops at the first range that begins beyond it, so characters at
the low end, which is where most of them are, cost a handful of comparisons.
-/

namespace NoteVault.Text

/-- Ranges of code points, both ends included. -/
abbrev Ranges := List (Nat × Nat)

/-- Whether a code point lies in one of the ranges, which are in increasing
order. -/
def inRanges : Ranges → Nat → Bool
  | [], _ => false
  | (lo, hi) :: rest, n =>
    if n < lo then false else if n ≤ hi then true else inRanges rest n

end NoteVault.Text
