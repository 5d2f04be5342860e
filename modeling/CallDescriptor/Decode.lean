import CallDescriptor.CallConfig
import CallDescriptor.Descriptor
/-!
# Decoding

`decodeTraced` reads a descriptor field by field, from the left, and reports
each step; `decode` is its outcome. The declared reference count is compared
with the bitmap before the trailer is read, so where both are wrong the count
is blamed.
-/

namespace CallDescriptor

/-- Compares the declared reference count with the number of params. -/
def checkReferenceCount (validation : Validation) (declared referenced : Nat) : Traced Unit :=
  if declared = referenced then return ()
  else if validation.checksReferenceCount then Traced.fail (.referenceCount declared referenced)
  else Traced.report [.referenceCount declared referenced]

/-- The configuration a text describes, with the events of reading it. -/
def decodeTraced (options : Options) (text : String) : Traced CallConfig := do
  let d ← Descriptor.ofString text
  let callType := CallType.ofDigit d.callTypeDigit
  Traced.report [.callType d.callTypeDigit callType]
  let referenceCount ← d.referenceCount
  let bitmap ← d.bitmap
  let params := Param.ofBitmap bitmap
  Traced.report [.bitmap bitmap (params.map Param.position)]
  checkReferenceCount options.validation referenceCount.toNat params.length
  let params ← assignSlots options d.trailer params
  return { callType, referenceCount, bitmap, params }

/-- The configuration a text describes. -/
def decode (options : Options) (text : String) : Except DecodeError CallConfig :=
  (decodeTraced options text).outcome

end CallDescriptor
