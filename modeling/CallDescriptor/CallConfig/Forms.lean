import CallDescriptor.CallConfig
import CallDescriptor.Json.Forms
import CallDescriptor.Options
/-!
# Configurations in JSON

A param, a set of options and a call configuration as JSON values. Each is
read from an object or from the array of its fields in order; each is written
as an object with its fields in that order. The slot of a param may be left
out of an object, and options may be left out of either form.
-/

namespace CallDescriptor

open Json Record

namespace Param

/-- The param as an object. -/
def toJson (p : Param) : Json :=
  object [
    ("position", integer p.position.toNat),
    ("stack_slot", match p.slot with
      | some s => integer s.toNat
      | none => null)]

/-- The param in either form. -/
def ofJson (v : Json) : Except ReadError Param :=
  match v with
  | object entries => do
    checkEntries [("position", check readByte), ("stack_slot", check (readNullable readByte))]
      entries
    let position ← required entries "position" readByte
    let slot ← optionalOr none entries "stack_slot" (readNullable readByte)
    return { position, slot }
  | array items => do
    let wanted := "struct ParameterDescriptor with 2 elements"
    let position ← requiredAt wanted items 0 readByte
    let slot ← requiredAt wanted items 1 (readNullable readByte)
    checkEnd 2 items
    return { position, slot }
  | _ => .error (.invalidType v.found "struct ParameterDescriptor")

end Param

namespace Options

/-- The options in either form. -/
def ofJson (v : Json) : Except ReadError Options :=
  match v with
  | object entries => do
    checkEntries [("padding", check (readNamed (α := Padding))),
      ("validation", check (readNamed (α := Validation)))] entries
    let padding ← optionalOr default entries "padding" readNamed
    let validation ← optionalOr default entries "validation" readNamed
    return { padding, validation }
  | array items => do
    let padding ← optionalAt default items 0 readNamed
    let validation ← optionalAt default items 1 readNamed
    checkEnd 2 items
    return { padding, validation }
  | _ => .error (.invalidType v.found "struct DecodeOptions")

end Options

namespace CallConfig

/-- The configuration as an object. -/
def toJson (c : CallConfig) : Json :=
  object [
    ("call_type", string (Named.name c.callType)),
    ("reference_count", integer c.referenceCount.toNat),
    ("bitmap", integer c.bitmap.toNat),
    ("params", array (c.params.map Param.toJson))]

/-- The configuration in either form. -/
def ofJson (v : Json) : Except ReadError CallConfig :=
  match v with
  | object entries => do
    checkEntries [("call_type", check (readNamed (α := CallType))),
      ("reference_count", check readByte), ("bitmap", check readWord),
      ("params", check (readList Param.ofJson))] entries
    let callType ← required entries "call_type" readNamed
    let referenceCount ← required entries "reference_count" readByte
    let bitmap ← required entries "bitmap" readWord
    let params ← required entries "params" (readList Param.ofJson)
    return { callType, referenceCount, bitmap, params }
  | array items => do
    let wanted := "struct DecodedConfig with 4 elements"
    let callType ← requiredAt wanted items 0 readNamed
    let referenceCount ← requiredAt wanted items 1 readByte
    let bitmap ← requiredAt wanted items 2 readWord
    let params ← requiredAt wanted items 3 (readList Param.ofJson)
    checkEnd 4 items
    return { callType, referenceCount, bitmap, params }
  | _ => .error (.invalidType v.found "struct DecodedConfig")

end CallConfig

end CallDescriptor
