import CallDescriptor.Number.Binary64
/-!
# Shortest decimal text

A binary64 number is written with the fewest digits that read back as the
same number, and of those with the nearest. `Magnitude.shortest` finds them by
trying the decimal grids from the coarsest on: on each grid only the two
neighbours of the number can be hits. What else the text of a number depends
on is a `DecimalStyle`: which of two equally near decimals it is, and where
positional notation gives way to scientific. `Binary64.text` writes a number
in a style.
-/

namespace CallDescriptor

/-- A decimal `digits · 10 ^ exponent`. -/
structure Decimal where
  digits : Nat
  exponent : Int
  deriving DecidableEq, Repr

/-- Which of two equally near decimals stands for a number. -/
inductive Tie where
  /-- The greater. -/
  | up
  /-- The one with an even last digit. -/
  | toEven
  deriving DecidableEq, Repr

/-- How numbers are written. -/
structure DecimalStyle where
  /-- The least and the greatest exponent of a first digit with which a number
  is written in positional notation; without them every number is. -/
  positional : Option (Int × Int)
  tie : Tie
  deriving DecidableEq, Repr

/-- Whether `below` goes up to the next point of its grid in a tie. -/
def Tie.goesUp (tie : Tie) (below : Nat) : Bool :=
  match tie with
  | up => true
  | toEven => below % 2 != 0

namespace Magnitude

/-- Whether `num / den` reads back as `m`: it lies no further than half a gap
away, and at exactly half a gap only if the significand is even. All is said
in quarters of the unit of `m`; below a power of two the gap is half as
wide. -/
def readsBack (m : Magnitude) (num den : Nat) : Bool :=
  let (n, d) := inUnits (4 * num) den m.exponent
  let below := if m.significand = leastNormal ∧ m.exponent > minExponent then 1 else 2
  let low := (4 * m.significand - below) * d
  let high := (4 * m.significand + 2) * d
  if m.significand % 2 = 0 then low ≤ n && n ≤ high else low < n && n < high

/-- The point of the grid of `10 ^ e` that reads back as `m` and is nearest to
it, if there is one. -/
def onGrid? (tie : Tie) (m : Magnitude) (e : Int) : Option Decimal :=
  let (num, den) := m.toQuotient
  let (n, d) := if e < 0 then (num * tenPower (-e).toNat, den) else (num, den * tenPower e.toNat)
  let below := n / d
  let fits (digits : Nat) : Bool :=
    if e < 0 then m.readsBack digits (tenPower (-e).toNat)
    else m.readsBack (digits * tenPower e.toNat) 1
  let twice := 2 * (n % d)
  let belowIsNearer := twice < d || (twice == d && !tie.goesUp below)
  match fits below && 0 < below, fits (below + 1) with
  | true, true => some ⟨if belowIsNearer then below else below + 1, e⟩
  | true, false => some ⟨below, e⟩
  | false, true => some ⟨below + 1, e⟩
  | false, false => none

/-- The exponent of the first decimal digit of `num / den`, tried downwards
from `start`. -/
def leadingExponent (num den : Nat) : Nat → Int → Int
  | 0, start => start
  | tries + 1, start =>
    let reached :=
      if start < 0 then den ≤ num * tenPower (-start).toNat
      else den * tenPower start.toNat ≤ num
    if reached then start else leadingExponent num den tries (start - 1)

/-- The shortest decimal that reads back as `m`. Seventeen digits always do. -/
def shortest (tie : Tie) (m : Magnitude) : Decimal :=
  if m.significand = 0 then ⟨0, 0⟩
  else
    let (num, den) := m.toQuotient
    let bits : Int := num.log2 - den.log2
    let lead := leadingExponent num den 400 (bits * 30103 / 100000 + 2)
    match (List.range 17).findSome? fun (k : Nat) => m.onGrid? tie (lead - k) with
    | some decimal => decimal
    | none => ⟨0, 0⟩

end Magnitude

namespace Decimal

/-- The exponent of the first digit. -/
def lead (x : Decimal) : Int := x.exponent + ((Nat.toDigits 10 x.digits).length - 1)

/-- The digits without the zeros at their end. -/
def withoutZeros (digits : List Char) : List Char :=
  (digits.reverse.dropWhile (· == '0')).reverse

/-- The text of a decimal, with at least one digit on each side of the point
and no other zero at its end. -/
def positional (x : Decimal) : String :=
  let digits := Nat.toDigits 10 x.digits ++ List.replicate x.exponent.toNat '0'
  let places := (-x.exponent).toNat
  let padded := List.replicate (places + 1 - digits.length) '0' ++ digits
  let whole := padded.take (padded.length - places)
  let fraction := withoutZeros (padded.drop (padded.length - places))
  String.ofList (whole ++ '.' :: if fraction.isEmpty then ['0'] else fraction)

/-- The text of a decimal as one digit before the point times a power of ten
with its sign. Without other digits there is no point. -/
def scientific (x : Decimal) : String :=
  let (first, others) := (Nat.toDigits 10 x.digits).splitAt 1
  let fraction := withoutZeros others
  let sign := if x.lead < 0 then '-' else '+'
  String.ofList (first ++ (if fraction.isEmpty then [] else '.' :: fraction) ++
    'e' :: sign :: Nat.toDigits 10 x.lead.natAbs)

/-- The text of a decimal in a style. -/
def text (style : DecimalStyle) (x : Decimal) : String :=
  match style.positional with
  | none => x.positional
  | some (least, greatest) =>
    if least ≤ x.lead ∧ x.lead ≤ greatest then x.positional else x.scientific

end Decimal

namespace Binary64

/-- The text of a number in a style. -/
def text (style : DecimalStyle) : Binary64 → String
  | finite negative m => (if negative then "-" else "") ++ (m.shortest style.tie).text style
  | infinite negative => if negative then "-inf" else "inf"
  | nan => "NaN"

end Binary64

end CallDescriptor
