import CallDescriptor.CallConfig
import CallDescriptor.Slot
/-!
# The written form of a descriptor

The layout that decoding reads, as a writer: the reference count, the bitmap,
one byte for each slot and filler up to the end. The marker and the call-type
byte in front of these fields are left to the caller, since a call type does
not say which digit it was read from. All digits are lower case.
-/

namespace CallDescriptor

namespace Layout

/-- The number of bytes of the trailer. -/
def trailerBytes : Nat := 22

/-- Slots with filler behind them, up to the end of the trailer. -/
def trailer (slots : List UInt8) : List Char :=
  (slots ++ List.replicate (trailerBytes - slots.length) filler).flatMap Hex.ofByte

/-- The fields that are read as numbers, without the trailer. -/
def numbers (referenceCount : UInt8) (bitmap : UInt64) : List Char :=
  Hex.ofByte referenceCount ++ Hex.ofWord bitmap

/-- The digits behind the call-type byte. -/
def fields (referenceCount : UInt8) (bitmap : UInt64) (slots : List UInt8) : List Char :=
  numbers referenceCount bitmap ++ trailer slots

end Layout

namespace CallConfig

/-- The slots of the params that have one, in order. -/
def slots (c : CallConfig) : List UInt8 := c.params.filterMap Param.slot

/-- The digits behind the call-type byte of a descriptor for `c`. -/
def fields (c : CallConfig) : List Char := Layout.fields c.referenceCount c.bitmap c.slots

end CallConfig

end CallDescriptor
