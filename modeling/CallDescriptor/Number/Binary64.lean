/-!
# Binary64 numbers, exactly

A finite number of the format is `significand · 2 ^ exponent`, with a
significand below `2 ^ 53`; it is normal where the significand has all its 53
bits and otherwise has the least exponent. `nearest` rounds a positive
quotient to the format, half to even, in exact arithmetic. Products, powers
of ten and their quotients are each rounded once, by `nearest` again.
-/

namespace CallDescriptor

/-- A magnitude `significand · 2 ^ exponent` of the format. -/
structure Magnitude where
  significand : Nat
  exponent : Int
  deriving DecidableEq, Repr

/-- A number of the format. -/
inductive Binary64 where
  | finite (negative : Bool) (magnitude : Magnitude)
  | infinite (negative : Bool)
  | nan
  deriving DecidableEq, Repr

namespace Magnitude

/-- The least significand of a normal magnitude, `2 ^ 52`. -/
def leastNormal : Nat := 1 <<< 52

/-- A power of ten. -/
def tenPower (k : Nat) : Nat := Nat.pow 10 k

/-- The exponent of the least magnitudes. -/
def minExponent : Int := -1074

/-- The exponent of the greatest magnitudes. -/
def maxExponent : Int := 971

/-- Zero, with the exponent of the least magnitudes. -/
def zero : Magnitude := ⟨0, minExponent⟩

/-- The magnitude as a quotient. -/
def toQuotient (m : Magnitude) : Nat × Nat :=
  if m.exponent < 0 then (m.significand, 1 <<< (-m.exponent).toNat)
  else (m.significand <<< m.exponent.toNat, 1)

/-- `num / den` rounded to an integer, half to even. -/
def roundHalfEven (num den : Nat) : Nat :=
  let q := num / den
  let twice := 2 * (num % den)
  if twice < den then q
  else if twice > den then q + 1
  else q + q % 2

/-- `num / den` in units of `2 ^ e`, as a quotient. -/
def inUnits (num den : Nat) (e : Int) : Nat × Nat :=
  if e < 0 then (num <<< (-e).toNat, den) else (num, den <<< e.toNat)

/-- The magnitude nearest to `num / den`, or `none` where that is no finite
one. The first guess of the exponent is exact or one too small. -/
def nearest (num den : Nat) : Option Magnitude :=
  if num = 0 then some zero
  else
    let guess : Int := num.log2 - den.log2 - 53
    let (n, d) := inUnits num den guess
    let exponent := max minExponent (if n / d < 2 * leastNormal then guess else guess + 1)
    let (n, d) := inUnits num den exponent
    let significand := roundHalfEven n d
    let m : Magnitude :=
      if significand = 2 * leastNormal then ⟨leastNormal, exponent + 1⟩ else ⟨significand, exponent⟩
    if m.exponent > maxExponent then none else some m

/-- The magnitude nearest to the product. -/
def mul? (a b : Magnitude) : Option Magnitude :=
  nearest (a.toQuotient.1 * b.toQuotient.1) (a.toQuotient.2 * b.toQuotient.2)

/-- The magnitude nearest to the quotient. -/
def div? (a b : Magnitude) : Option Magnitude :=
  nearest (a.toQuotient.1 * b.toQuotient.2) (a.toQuotient.2 * b.toQuotient.1)

/-- The greatest power of ten of the format. -/
def maxTenPower : Nat := 308

/-- The magnitude nearest to a decimal `digits · 10 ^ exponent`. Above the
greatest power of ten there is none; far enough below the least magnitude it
is zero, so no power is larger than the digits call for. -/
def ofDecimal? (digits : Nat) (exponent : Int) : Option Magnitude :=
  if digits = 0 then some zero
  else if exponent > maxTenPower then none
  else if 0 ≤ exponent then nearest (digits * tenPower exponent.toNat) 1
  else if exponent + digits.log2 < minExponent then some zero
  else nearest digits (tenPower (-exponent).toNat)

/-- `m` divided by `10 ^ power` in steps of the greatest power of ten, at most
`steps` of them. -/
def downBy : Nat → Magnitude → Nat → Option Magnitude
  | 0, _, _ => some zero
  | steps + 1, m, power => do
    if power ≤ maxTenPower then m.div? (← nearest (tenPower power) 1)
    else if m.significand = 0 then return zero
    else downBy steps (← m.div? (← nearest (tenPower maxTenPower) 1)) (power - maxTenPower)

/-- `digits` scaled by `10 ^ exponent` in steps that are each rounded: first
the digits, then the power of ten, then their product or quotient. Exponents
below the least power of ten are taken in steps of the greatest one. -/
def ofScaled? (digits : Nat) (exponent : Int) : Option Magnitude := do
  let start ← nearest digits 1
  if start.significand = 0 then return zero
  if 0 ≤ exponent then
    if exponent > maxTenPower then none
    else start.mul? (← nearest (tenPower exponent.toNat) 1)
  else
    let power := (-exponent).toNat
    downBy (power / maxTenPower + 1) start power

end Magnitude

end CallDescriptor
