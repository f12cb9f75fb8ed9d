import NoteVault.Text.Hex

/-!
# Faults in UTF-8

Bytes that are not UTF-8 have a first fault: a byte with which no character can begin, a
byte that cannot continue the character before it, or the end in the middle of a character.
The fault spans the bytes of the character that has been begun.

## Main definitions

* `Utf8Fault` — a fault and where it is.
* `findUtf8Fault?` — the first fault in some bytes.
-/

namespace NoteVault

/-- What is wrong with bytes. -/
inductive Utf8Reason where
  /-- No character begins with the byte. -/
  | start
  /-- A byte does not continue the character. -/
  | continuation
  /-- The bytes end within a character. -/
  | ending
  deriving DecidableEq

/-- A fault in bytes. -/
structure Utf8Fault where
  /-- The first byte of the fault. -/
  byte : Nat
  /-- The position of that byte. -/
  position : Nat
  /-- How many bytes the fault spans. -/
  length : Nat
  /-- What is wrong. -/
  reason : Utf8Reason
  deriving DecidableEq

/-- The reason as part of a message. -/
def Utf8Reason.message : Utf8Reason → Text
  | .start => "invalid start byte"
  | .continuation => "invalid continuation byte"
  | .ending => "unexpected end of data"

/-- The fault as a message. -/
def Utf8Fault.message (f : Utf8Fault) : Text :=
  let place : Text :=
    if f.length = 1 then "byte 0x" ++ Text.hex 2 f.byte ++ " in position " ++ Text.ofNat f.position
    else
      "bytes in position " ++ Text.ofNat f.position ++ "-"
        ++ Text.ofNat (f.position + f.length - 1)
  "'utf-8' codec can't decode " ++ place ++ ": " ++ f.reason.message

/-- How many bytes follow a first byte, and the least and the greatest of them that can come
directly behind it; none if no character begins with the byte. -/
def utf8Form? (first : Nat) : Option (Nat × Nat × Nat) :=
  if first < 0x80 then some (0, 0, 0)
  else if first < 0xC2 then none
  else if first < 0xE0 then some (1, 0x80, 0xBF)
  else if first = 0xE0 then some (2, 0xA0, 0xBF)
  else if first = 0xED then some (2, 0x80, 0x9F)
  else if first < 0xF0 then some (2, 0x80, 0xBF)
  else if first = 0xF0 then some (3, 0x90, 0xBF)
  else if first < 0xF4 then some (3, 0x80, 0xBF)
  else if first = 0xF4 then some (3, 0x80, 0x8F)
  else none

/-- How many of the next bytes continue a character, up to some number of them. The first
must be between two bounds. -/
def countContinuing (least greatest : Nat) : (wanted : Nat) → List UInt8 → Nat
  | 0, _ | _, [] => 0
  | wanted + 1, b :: rest =>
    if least ≤ b.toNat ∧ b.toNat ≤ greatest then countContinuing 0x80 0xBF wanted rest + 1 else 0

/-- How many bytes follow the first one of a character, or how many bytes a fault there
spans. -/
def readUtf8Form (first : UInt8) (rest : List UInt8) : Except (Nat × Utf8Reason) Nat :=
  match utf8Form? first.toNat with
  | none => .error (1, .start)
  | some (wanted, least, greatest) =>
    let found := countContinuing least greatest wanted rest
    if found = wanted then .ok wanted
    else .error (found + 1, if rest.length = found then .ending else .continuation)

/-- The first fault in bytes that begin at a position, of which the first `skip` belong to a
character that has been read. -/
def findUtf8FaultFrom (position : Nat) : (skip : Nat) → List UInt8 → Option Utf8Fault
  | _, [] => none
  | skip + 1, _ :: rest => findUtf8FaultFrom (position + 1) skip rest
  | 0, b :: rest =>
    match readUtf8Form b rest with
    | .ok more => findUtf8FaultFrom (position + 1) more rest
    | .error (length, reason) => some ⟨b.toNat, position, length, reason⟩

/-- The first fault in bytes that are not UTF-8. -/
def findUtf8Fault? (bytes : List UInt8) : Option Utf8Fault := findUtf8FaultFrom 0 0 bytes

end NoteVault
