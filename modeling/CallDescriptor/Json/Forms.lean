import CallDescriptor.Json.Basic
import CallDescriptor.Record
/-!
# Scalars and names in JSON

How numbers, names and lists stand in a JSON value. A name is a string, or an
object with the name as its one key and null as its value.
-/

namespace CallDescriptor

namespace Json

variable {α : Type}

/-- How a message names the value. -/
def found : Json → Found
  | null => .null
  | boolean b => .boolean b
  | integer i => .integer i
  | real x => .real x realStyle
  | string s => .string s
  | array _ => .sequence
  | object _ => .map

/-- An integer from zero to `max`. -/
def readNat (max : Nat) (wanted : String) (v : Json) : Except ReadError Nat :=
  match v with
  | integer i =>
    if 0 ≤ i ∧ i ≤ max then .ok i.toNat else .error (.invalidValue v.found wanted)
  | _ => .error (.invalidType v.found wanted)

/-- An integer that fits a byte. -/
def readByte (v : Json) : Except ReadError UInt8 := do
  return (← readNat (UInt8.size - 1) "u8" v).toUInt8

/-- An integer that fits a 64-bit word. -/
def readWord (v : Json) : Except ReadError UInt64 := do
  return (← readNat (UInt64.size - 1) "u64" v).toUInt64

/-- Null, or a value. -/
def readNullable (read : Json → Except ReadError α) (v : Json) : Except ReadError (Option α) :=
  match v with
  | null => .ok none
  | v => some <$> read v

/-- A list of values. -/
def readList (read : Json → Except ReadError α) (v : Json) : Except ReadError (List α) :=
  match v with
  | array items => items.mapM read
  | _ => .error (.invalidType v.found "a sequence")

/-- A value of a vocabulary. -/
def readNamed [Named α] (v : Json) : Except ReadError α :=
  match v with
  | string name => Named.read name
  | object [(name, content)] => do
    let a ← Named.read name
    match content with
    | null => .ok a
    | _ => .error (.invalidType content.found "unit")
  | object _ => .error (.invalidValue v.found "map with a single key")
  | _ => .error (.invalidType v.found "string or map")

end Json

end CallDescriptor
