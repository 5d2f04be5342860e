/-!
# Referenced params

A descriptor marks the argument positions that are replaced at call time as
the set bits of a 64-bit word. `Param.ofBitmap` lists them from the highest
position down, the order in which slots are paired with them.
-/

namespace CallDescriptor

/-- An argument position replaced at call time, and the local stack slot it is
read from once one is known. -/
structure Param where
  /-- The bit index in the bitmap, zero the least significant. -/
  position : UInt8
  slot : Option UInt8 := none
  deriving DecidableEq, Repr

/-- The number of bits `bitmap` is written in, at least one. -/
def bitmapWidth (bitmap : UInt64) : Nat := bitmap.toNat.log2 + 1

/-- The set bits of `bitmap`, highest first. -/
def setBits (bitmap : UInt64) : List Nat :=
  (List.range (bitmapWidth bitmap)).reverse.filter bitmap.toNat.testBit

namespace Param

/-- The params a bitmap marks, highest position first, none with a slot. -/
def ofBitmap (bitmap : UInt64) : List Param :=
  (setBits bitmap).map fun bit => { position := bit.toUInt8 }

end Param

end CallDescriptor
