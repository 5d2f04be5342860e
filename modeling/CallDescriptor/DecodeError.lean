import CallDescriptor.Text.Quoted
/-!
# Why a descriptor is refused

The causes, with what a message needs of each. Offsets count characters from
the start of the descriptor.
-/

namespace CallDescriptor

/-- The number of characters of a descriptor, the two of its marker included. -/
def descriptorLength : Nat := 66

/-- Why a descriptor or one of its fields could not be read. -/
inductive DecodeError where
  /-- The text has `length` characters. -/
  | malformed (length : Nat)
  /-- `found` is no hex digit. -/
  | invalidDigit (offset : Nat) (found : Char)
  /-- The digit at `offset` has no partner to make a byte with. -/
  | danglingDigit (offset : Nat)
  /-- The trailer holds more or fewer slots than there are params. -/
  | slotCount (slots params : Nat)
  /-- The declared reference count is not what the bitmap marks. -/
  | referenceCount (declared referenced : Nat)
  deriving DecidableEq, Repr

namespace DecodeError

/-- The words for a reader. -/
def message : DecodeError → String
  | malformed length => s!"malformed descriptor: length {length}, expected {descriptorLength}"
  | invalidDigit offset found =>
    s!"invalid hex digit {Text.quoteChar found} at offset {offset}"
  | danglingDigit offset => s!"dangling hex digit at offset {offset}"
  | slotCount slots params => s!"trailer holds {slots} stack slots for {params} referenced params"
  | referenceCount declared referenced =>
    s!"descriptor declares {declared} references but the bitmap marks {referenced}"

end DecodeError

end CallDescriptor
