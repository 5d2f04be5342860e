import CallDescriptor.Json.Basic
import CallDescriptor.Text.Digits
import CallDescriptor.Text.Reader
/-!
# Reading JSON text

`Json.ofString?` reads a whole text as one value. Integers from `-2^63` to
`2^64 - 1` are kept as such; a number outside this range, or with a point or
an exponent, is a binary64 number, got by scaling the digits that a 64-bit
word can hold. A text nests at most 127 arrays and objects.
-/

namespace CallDescriptor

namespace Json

open Text Text.Reader

/-- White space between tokens. -/
def blank : Reader Unit := do
  let _ ← takeWhile fun c => c == ' ' || c == '\t' || c == '\n' || c == '\r'

/-! ## Strings -/

/-- A code unit of four hex digits. -/
def codeUnit : Reader Nat := do
  return digitsValue 16 (← count 4 isHexDigit)

/-- The character a code unit stands for, alone or with the second half of a
surrogate pair. -/
def codePoint : Reader Char := do
  let unit ← codeUnit
  if 0xD800 ≤ unit ∧ unit < 0xDC00 then
    word "\\u"
    let low ← codeUnit
    if 0xDC00 ≤ low ∧ low < 0xE000 then
      return Char.ofNat (0x10000 + (unit - 0xD800) * 0x400 + (low - 0xDC00))
    else failure
  else if 0xDC00 ≤ unit ∧ unit < 0xE000 then failure
  else return Char.ofNat unit

/-- What follows a backslash. -/
def escaped : Reader Char := do
  match ← satisfy fun _ => true with
  | '"' => return '"'
  | '\\' => return '\\'
  | '/' => return '/'
  | 'b' => return '\x08'
  | 'f' => return '\x0c'
  | 'n' => return '\n'
  | 'r' => return '\r'
  | 't' => return '\t'
  | 'u' => codePoint
  | _ => failure

/-- A character of a string. -/
def stringChar : Reader Char := do
  let c ← satisfy fun c => c != '"' && ' '.toNat ≤ c.toNat
  if c = '\\' then escaped else return c

/-- A string with its quotes. -/
def quotedString : Reader String := do
  char '"'
  let cs ← many stringChar
  char '"'
  return String.ofList cs

/-! ## Numbers -/

/-- Digits appended to `acc` as long as the result fits a 64-bit word, and
how many are left over. -/
def absorb (acc : Nat) : List Char → Nat × Nat
  | [] => (acc, 0)
  | c :: cs =>
    let next := 10 * acc + digitValue c
    if next < UInt64.size then absorb next cs else (acc, (c :: cs).length)

/-- The value of an exponent. -/
def exponentValue (negative : Bool) (digits : List Char) : Int :=
  let n : Nat := digitsValue 10 digits
  if negative then -n else n

/-- The digits before the point: no further digit follows a leading zero. -/
def wholeDigits : Reader (List Char) := do
  let cs ← takeWhile1 Char.isDigit
  if cs.head? = some '0' ∧ cs.length > 1 then failure else return cs

/-- The point and the digits after it. -/
def fractionDigits : Reader (List Char) := do
  char '.'
  takeWhile1 Char.isDigit

/-- An exponent with its mark. -/
def exponentPart : Reader Int := do
  let _ ← satisfy fun c => c == 'e' || c == 'E'
  let sign ← optional (satisfy fun c => c == '+' || c == '-')
  return exponentValue (sign == some '-') (← takeWhile1 Char.isDigit)

/-- The number with these parts. -/
def ofParts (negative : Bool) (whole : List Char) (fraction : Option (List Char))
    (exponent : Option Int) : Option Json :=
  let (digits, surplus) := absorb 0 whole
  let scaled (digits : Nat) (exponent : Int) : Option Json :=
    (Magnitude.ofScaled? digits exponent).map fun m => real (.finite negative m)
  match fraction, exponent with
  | none, none =>
    if surplus > 0 then scaled digits surplus
    else if negative then
      if 0 < digits ∧ digits ≤ UInt64.size / 2 then some (integer (-digits)) else scaled digits 0
    else some (integer digits)
  | _, _ =>
    let places := fraction.getD []
    let (digits, left) := absorb digits places
    scaled digits (surplus - (places.length - left : Nat) + exponent.getD 0)

/-- A number. -/
def number : Reader Json := do
  let negative ← accepts (char '-')
  let whole ← wholeDigits
  let fraction ← if (← peek) = some '.' then some <$> fractionDigits else pure none
  let next ← peek
  let exponent ← if next = some 'e' ∨ next = some 'E' then some <$> exponentPart else pure none
  StateT.lift (ofParts negative whole fraction exponent)

/-! ## Values -/

/-- A member of an object, whose value `item` reads. -/
def member (item : Reader Json) : Reader (String × Json) := do
  blank
  let name ← quotedString
  blank
  char ':'
  return (name, ← item)

/-- An array whose items `item` reads. -/
def arrayOf (item : Reader Json) : Reader Json := do
  char '['
  blank
  if ← accepts (char ']') then return array []
  else
    let items ← sepBy1 item (char ',')
    char ']'
    return array items

/-- An object whose values `item` reads. -/
def objectOf (item : Reader Json) : Reader Json := do
  char '{'
  blank
  if ← accepts (char '}') then return object []
  else
    let members ← sepBy1 (member item) (char ',')
    blank
    char '}'
    return ofMembers members

/-- A value that is neither an array nor an object. -/
def scalar : Reader Json := do
  match ← peek with
  | some '"' => string <$> quotedString
  | some 'n' => do
    word "null"
    return null
  | some 't' => do
    word "true"
    return boolean true
  | some 'f' => do
    word "false"
    return boolean false
  | _ => number

/-- A value, in which `item` reads what stands inside an array or an object. -/
def anyOf (item : Reader Json) : Reader Json := do
  match ← peek with
  | some '[' => arrayOf item
  | some '{' => objectOf item
  | _ => scalar

/-- What `r` reads, with the white space around it. -/
def spaced (r : Reader Json) : Reader Json := do
  blank
  let v ← r
  blank
  return v

/-- A value with the white space around it, in which arrays and objects nest
at most `depth` deep. -/
def value : Nat → Reader Json
  | 0 => spaced scalar
  | depth + 1 => spaced (anyOf (value depth))

/-- How deep arrays and objects may nest. -/
def maxDepth : Nat := 127

/-- The value a whole text stands for. -/
def ofString? (text : String) : Option Json := (value maxDepth).run? text.toList

end Json

end CallDescriptor
