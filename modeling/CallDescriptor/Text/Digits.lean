/-!
# Digits

The digits of numbers in a base up to sixteen, in either case, and the numbers
and characters that they stand for.
-/

namespace CallDescriptor

namespace Text

/-- Whether `c` is a hex digit. -/
def isHexDigit (c : Char) : Bool :=
  c.isDigit || ('a' ≤ c && c ≤ 'f') || ('A' ≤ c && c ≤ 'F')

/-- The value of a digit. -/
def digitValue (c : Char) : Nat :=
  if c.isDigit then c.toNat - '0'.toNat else c.toLower.toNat - 'a'.toNat + 10

/-- The value of digits in a base, most significant first. -/
def digitsValue (base : Nat) (digits : List Char) : Nat :=
  digits.foldl (fun acc c => base * acc + digitValue c) 0

/-- The character whose code point hex digits spell, if it is one. -/
def charOfHex? (digits : List Char) : Option Char :=
  let n := digitsValue 16 digits
  if h : n.isValidChar then some (Char.ofNatAux n h) else none

end Text

end CallDescriptor
