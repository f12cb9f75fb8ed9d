import NoteVault.Text.Digit

/-!
# Integers in base ten

An integer in base ten has no more than 4300 digits, whether it is read or written, because
the time for either grows faster than the number of digits. Bases that are powers of two
have no such limit.

## Main definitions

* `decimalValue` — the number that digits denote, unless they are too many.
* `groupedDigits` — digits with low lines between them.
-/

namespace NoteVault

/-- The most digits that an integer in base ten can have. -/
def maxDecimalDigits : Nat := 4300

/-- The limit as a message says it. -/
def digitLimitText : Text :=
  "Exceeds the limit (" ++ Text.ofNat maxDecimalDigits ++ " digits) for integer string conversion"

/-- The hint at the end of a message about the limit. -/
def digitLimitHint : Text := "; use sys.set_int_max_str_digits() to increase the limit"

/-- A numeral with too many digits. -/
structure LongNumeral where
  /-- How many digits it has. -/
  digits : Nat
  deriving DecidableEq

/-- What is wrong with a numeral, as a message. -/
def LongNumeral.message (n : LongNumeral) : Text :=
  digitLimitText ++ ": value has " ++ Text.ofNat n.digits ++ " digits" ++ digitLimitHint

/-- The message that an integer has too many digits to be written. -/
def longIntegerMessage : Text := digitLimitText ++ digitLimitHint

/-- Whether an integer can be written in base ten. -/
def isWritable (n : Int) : Bool := n.natAbs < Nat.pow 10 maxDecimalDigits

namespace Text

/-- The number that digits in base ten denote. -/
def decimalValue (digits : Text) : Except LongNumeral Nat :=
  if maxDecimalDigits < digits.length then .error ⟨digits.length⟩ else .ok (digitsValue digits)

/-- Digits with single low lines between them, and what follows. -/
def groupedDigits (isDigit : Char → Bool) : Text → Text × Text
  | [] => ([], [])
  | c :: rest =>
    if isDigit c then
      match rest with
      | '_' :: d :: more =>
        if isDigit d then
          let (digits, after) := groupedDigits isDigit (d :: more)
          (c :: digits, after)
        else ([c], rest)
      | rest =>
        let (digits, after) := groupedDigits isDigit rest
        (c :: digits, after)
    else ([], c :: rest)

end Text
end NoteVault
