import CallDescriptor.Text.Digits
import CallDescriptor.Text.Reader
import CallDescriptor.Toml.Value
/-!
# TOML numbers and dates

Integers fit 64 bits with sign; other numbers are rounded to binary64 once, and
one that is too large is refused, unless it is negative: then it is the
negative infinity. A date is a day of the calendar, and a time may name a leap
second.
-/

namespace CallDescriptor

namespace Toml

open Text Text.Reader

/-! ## Numbers -/

/-- Digits, with an underscore between some two. -/
def digitRun (isDigit : Char → Bool) : Reader (List Char) := do
  return (← sepBy1 (takeWhile1 isDigit) (char '_')).flatten

/-- A sign, and whether it is a minus. -/
def sign : Reader Bool := do
  return (← optional (satisfy fun c => c == '+' || c == '-')) == some '-'

/-- The decimal digits of an integer: no digit follows a leading zero. -/
def wholeDigits : Reader (List Char) := do
  let cs ← digitRun Char.isDigit
  if cs.head? = some '0' ∧ cs.length > 1 then failure else return cs

/-- An integer after its mark `0x`, `0o` or `0b`. -/
def markedInteger (mark : String) (base : Nat) (isDigit : Char → Bool) : Reader Value := do
  word mark
  let n := digitsValue base (← digitRun isDigit)
  if n < UInt64.size / 2 then return .integer n else failure

/-- A decimal integer. -/
def decimalInteger : Reader Value := do
  let negative ← sign
  let n := digitsValue 10 (← wholeDigits)
  if negative then
    if n ≤ UInt64.size / 2 then return .integer (-n) else failure
  else
    if n < UInt64.size / 2 then return .integer n else failure

/-- An integer. -/
def integer : Reader Value :=
  markedInteger "0x" 16 isHexDigit <|>
    markedInteger "0o" 8 (fun c => '0' ≤ c && c ≤ '7') <|>
    markedInteger "0b" 2 (fun c => c == '0' || c == '1') <|>
    decimalInteger

/-- An exponent with its mark. -/
def exponentPart : Reader Int := do
  let _ ← satisfy fun c => c == 'e' || c == 'E'
  let negative ← sign
  let n : Nat := digitsValue 10 (← digitRun Char.isDigit)
  return if negative then -n else n

/-- The point and the digits after it. -/
def fractionPart : Reader (List Char) := do
  char '.'
  digitRun Char.isDigit

/-- A number with a point or an exponent. -/
def decimalReal : Reader Value := do
  let negative ← sign
  let whole ← wholeDigits
  let fraction ← optional fractionPart
  let exponent ← optional exponentPart
  if fraction.isNone ∧ exponent.isNone then failure
  let places := fraction.getD []
  let digits := digitsValue 10 (whole ++ places)
  match Magnitude.ofDecimal? digits (exponent.getD 0 - places.length) with
  | some m => return .real (.finite negative m)
  | none => if negative then return .real (.infinite true) else failure

/-- An infinity, or what is no number. -/
def specialReal : Reader Value := do
  let negative ← sign
  (do word "inf"; return .real (.infinite negative)) <|> (do word "nan"; return .real .nan)

/-! ## Dates -/

/-- A number of `width` digits, from `low` to `high`. -/
def field (width low high : Nat) : Reader Nat := do
  let n := digitsValue 10 (← count width Char.isDigit)
  if low ≤ n ∧ n ≤ high then return n else failure

/-- Whether a year has a 29 February. -/
def isLeapYear (year : Nat) : Bool := year % 4 = 0 && (year % 100 ≠ 0 || year % 400 = 0)

/-- The number of days of a month. -/
def daysInMonth (year month : Nat) : Nat :=
  if month = 2 then if isLeapYear year then 29 else 28
  else if month ∈ [4, 6, 9, 11] then 30
  else 31

/-- A day of the calendar. -/
def date : Reader Unit := do
  let year ← field 4 0 9999
  char '-'
  let month ← field 2 1 12
  char '-'
  let _ ← field 2 1 (daysInMonth year month)

/-- A time of day. -/
def time : Reader Unit := do
  let _ ← field 2 0 23
  char ':'
  let _ ← field 2 0 59
  char ':'
  let _ ← field 2 0 60
  let _ ← optional (do char '.'; takeWhile1 Char.isDigit)

/-- The distance from universal time. -/
def offset : Reader Unit :=
  (do let _ ← satisfy fun c => c == 'Z' || c == 'z') <|>
    (do
      let _ ← satisfy fun c => c == '+' || c == '-'
      let _ ← field 2 0 23
      char ':'
      let _ ← field 2 0 59)

/-- A date, a time or both, with an offset only for both. -/
def moment : Reader Unit :=
  (do
    date
    let _ ← optional (do
      let _ ← satisfy fun c => c == 'T' || c == 't' || c == ' '
      time
      let _ ← optional offset)) <|>
    time

/-- A date or time with its text. -/
def datetime : Reader Value := fun text =>
  match moment text with
  | some (_, rest) => some (.datetime (String.ofList (text.take (text.length - rest.length))), rest)
  | none => none

end Toml

end CallDescriptor
