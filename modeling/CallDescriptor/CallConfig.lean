import CallDescriptor.CallType
import CallDescriptor.Param
/-!
# Call configurations

What a descriptor says, field by field.
-/

namespace CallDescriptor

/-- The content of a descriptor. -/
structure CallConfig where
  callType : CallType
  /-- The declared count, which need not be the number of params. -/
  referenceCount : UInt8
  bitmap : UInt64
  /-- The referenced params, highest position first. -/
  params : List Param
  deriving DecidableEq, Repr

namespace CallConfig

variable (c : CallConfig)

/-- The params left without a slot. -/
def unassigned : List Param := c.params.filter fun p => p.slot.isNone

/-- Whether every param has a slot. -/
def isFullyAssigned : Bool := c.unassigned.isEmpty

/-- The positions of the params, in order. -/
def positions : List UInt8 := c.params.map Param.position

end CallConfig

end CallDescriptor
