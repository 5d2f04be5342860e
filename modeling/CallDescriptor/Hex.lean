import CallDescriptor.DecodeError
/-!
# Hexadecimal text

Digits, words and bytes as hex text, read and written. A reader takes the
offset at which its text starts in the descriptor and blames the first
character that is no digit; the writers give lower case. `bytes` reads pairs
from the left, so `hi` and `lo` of a byte are its digits in reading order.
-/

namespace CallDescriptor

namespace Hex

/-! ## Reading -/

/-- The value of a hex digit, in either case. -/
def value? (c : Char) : Option UInt8 :=
  if '0'.toNat ≤ c.toNat ∧ c.toNat ≤ '9'.toNat then some (c.toNat - '0'.toNat).toUInt8
  else if 'a'.toNat ≤ c.toNat ∧ c.toNat ≤ 'f'.toNat then some (c.toNat - 'a'.toNat + 10).toUInt8
  else if 'A'.toNat ≤ c.toNat ∧ c.toNat ≤ 'F'.toNat then some (c.toNat - 'A'.toNat + 10).toUInt8
  else none

/-- Whether `c` is a hex digit. -/
def isDigit (c : Char) : Bool := (value? c).isSome

/-- The value of the digit at `offset`. -/
def digit (offset : Nat) (c : Char) : Except DecodeError UInt8 :=
  match value? c with
  | some v => .ok v
  | none => .error (.invalidDigit offset c)

/-- Shifts the digits of a text into `acc`, most significant first. -/
def wordFrom (acc : UInt64) (offset : Nat) : List Char → Except DecodeError UInt64
  | [] => .ok acc
  | c :: cs => do
    let d ← digit offset c
    wordFrom (acc <<< 4 ||| d.toUInt64) (offset + 1) cs

/-- A big-endian number. A word has room for sixteen digits. -/
def word (offset : Nat) (cs : List Char) : Except DecodeError UInt64 := wordFrom 0 offset cs

/-- Fails at the first character that is no digit. -/
def checkDigits (offset : Nat) : List Char → Except DecodeError Unit
  | [] => .ok ()
  | c :: cs => do
    let _ ← digit offset c
    checkDigits (offset + 1) cs

/-- The bytes that pairs of digits spell. -/
def bytes (offset : Nat) : List Char → Except DecodeError (List UInt8)
  | [] => .ok []
  | [lone] => do
    let _ ← digit offset lone
    .error (.danglingDigit offset)
  | hi :: lo :: rest => do
    let h ← digit offset hi
    let l ← digit (offset + 1) lo
    let bs ← bytes (offset + 2) rest
    return (h <<< 4 ||| l) :: bs

/-! ## Writing -/

/-- The lowest `width` hex digits of `n`, most significant first. -/
def ofNat (width n : Nat) : List Char :=
  match width with
  | 0 => []
  | w + 1 => ofNat w (n / 16) ++ [Nat.digitChar (n % 16)]

/-- A byte as two digits. -/
def ofByte (b : UInt8) : List Char := ofNat 2 b.toNat

/-- A word as sixteen digits. -/
def ofWord (w : UInt64) : List Char := ofNat 16 w.toNat

end Hex

end CallDescriptor
