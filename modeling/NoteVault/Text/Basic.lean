/-!
# Texts

Everything this library reads or writes is made of characters in sequence: a
note, a path, a heading, a settings file. A `Text` is the list of its
characters, so that every rule about texts is a rule about lists, a position is
a count of characters, and every scanner below recurses on what is left to
read. `String` appears only where bytes or a terminal are involved.

## Main definitions

* `Text` — a list of characters; string literals coerce to it.
* `Text.order` — the order by code points, which is the order of every
  comparison of texts in the library, and the collation `C`.
* `Text.joinWith`, `Text.splitWhere` — the pieces between separators and back.
* `Text.ofNat`, `Text.ofInt` — decimal digits.
-/

namespace NoteVault

/-- A text is the list of its characters. -/
abbrev Text := List Char

namespace Text

instance : Coe String Text := ⟨String.toList⟩

/-!
## The order of texts

A language can have an order of its own for texts, its collation, and a process can
take it from its environment. The order here is always the collation `C`, which a
process has before it takes another one and keeps where there is none to take.
-/

/-- The order by code points: the first difference decides, and a proper
beginning comes before the longer text. -/
def order (s t : Text) : Ordering := compare s t

/-- Strictly before in the order by code points. -/
def before (s t : Text) : Bool := (order s t).isLT

/-! ## Pieces and separators -/

/-- The parts of a list of texts one after the other, with `sep` between
neighbours. -/
def joinWith (sep : Text) : List Text → Text
  | [] => []
  | [s] => s
  | s :: t :: rest => s ++ sep ++ joinWith sep (t :: rest)

/-- The pieces between the characters that satisfy `p`; there is always at least
one piece. -/
def splitWhere (p : Char → Bool) : Text → List Text
  | [] => [[]]
  | c :: rest =>
    if p c then [] :: splitWhere p rest
    else
      match splitWhere p rest with
      | [] => [[c]]
      | piece :: pieces => (c :: piece) :: pieces

/-- The pieces between the occurrences of one character. -/
def splitOn (sep : Char) (s : Text) : List Text := splitWhere (· = sep) s

/-- What follows `start`, if the text begins with it. -/
def dropStart? (start s : Text) : Option Text :=
  match start, s with
  | [], s => some s
  | _ :: _, [] => none
  | a :: start, b :: s => if a = b then dropStart? start s else none

/-- The text without its longest ending whose characters all satisfy `p`. -/
def dropEndWhile (p : Char → Bool) : Text → Text
  | [] => []
  | c :: rest =>
    match dropEndWhile p rest with
    | [] => if p c then [] else [c]
    | kept => c :: kept

/-- The text up to the last occurrence of `c` and the text after it, if `c`
occurs. -/
def splitLast? (c : Char) : Text → Option (Text × Text)
  | [] => none
  | d :: rest =>
    match splitLast? c rest with
    | some (front, back) => some (d :: front, back)
    | none => if d = c then some ([], rest) else none

/-! ## Decimal numerals -/

/-- A natural number in decimal digits. -/
def ofNat (n : Nat) : Text := Nat.toDigits 10 n

/-- An integer in decimal digits, with a minus sign if it is negative. -/
def ofInt : Int → Text
  | .ofNat n => ofNat n
  | .negSucc n => '-' :: ofNat (n + 1)

/-- A natural number in at least `width` digits, filled up with zeros. -/
def padNat (width n : Nat) : Text :=
  let digits := ofNat n
  List.replicate (width - digits.length) '0' ++ digits

/-- A text filled up on the left with blanks to at least `width` characters. -/
def padLeft (width : Nat) (s : Text) : Text :=
  List.replicate (width - s.length) ' ' ++ s

end Text
end NoteVault
