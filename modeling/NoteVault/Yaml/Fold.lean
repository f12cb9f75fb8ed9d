import NoteVault.Text.Basic

/-!
# Characters and gaps of YAML

A scalar of YAML may go on over several lines. What stands between two of its words
is a *gap*, blanks and line breaks in any number, and a gap is folded: without a
break it stays as it is, a single break becomes one blank, and of several breaks the
first is dropped.

Line ends are expected to be unified. Besides the line feed, the next-line character
and the two Unicode separators break a line; the separators stay what they are, the
next-line character becomes a line feed.
-/

namespace NoteVault.Yaml

/-! ## Classes of characters -/

/-- Whether a character breaks a line. -/
def isBreak (c : Char) : Bool :=
  c = '\n' || c = Char.ofNat 0x85 || c = Char.ofNat 0x2028 || c = Char.ofNat 0x2029

/-- Whether a character is a blank within a line. -/
def isSpace (c : Char) : Bool := c = ' ' || c = '\t'

/-- Whether a character ends a word. -/
def isGap (c : Char) : Bool := isSpace c || isBreak c

/-- Whether a text is at its end or goes on with a gap. -/
def startsGap (s : Text) : Bool := s.head?.all isGap

/-- A line break as a scalar keeps it. -/
def keptBreak (c : Char) : Char := if c = Char.ofNat 0x85 then '\n' else c

/-- Whether a document may hold a character at all. -/
def isAllowed (c : Char) : Bool :=
  let n := c.toNat
  n = 0x9 || n = 0xA || 0x20 ≤ n && n ≤ 0x7E || n = 0x85 || 0xA0 ≤ n && n ≤ 0xFFFD
    || 0x10000 ≤ n

/-- Whether a line begins with a mark between documents. -/
def startsWithMark : Text → Bool
  | a :: b :: c :: rest => (a = '-' || a = '.') && b = a && c = a && startsGap rest
  | _ => false

/-! ## Gaps -/

/-- A gap between two words of a scalar. -/
structure Gap where
  /-- The blanks, as long as no line has ended. -/
  blanks : Text := []
  /-- The line breaks. -/
  breaks : Text := []
  /-- A line has ended. -/
  isBroken : Bool := false
  /-- The first line end was escaped, so that it counts for nothing. -/
  isEscaped : Bool := false

namespace Gap

/-- A gap that begins with an escaped line end. -/
def escaped : Gap := { isBroken := true, isEscaped := true }

/-- The gap with one more blank or line break; blanks after a break are the
indentation of a line. -/
def push (g : Gap) (c : Char) : Gap :=
  if isBreak c then { g with blanks := [], breaks := g.breaks ++ [keptBreak c], isBroken := true }
  else if g.isBroken then g
  else { g with blanks := g.blanks ++ [c] }

/-- What a gap leaves in the scalar. -/
def fold (g : Gap) : Text :=
  if !g.isBroken then g.blanks
  else if g.isEscaped then g.breaks
  else
    match g.breaks with
    | ['\n'] => [' ']
    | '\n' :: more => more
    | breaks => breaks

end Gap
end NoteVault.Yaml
