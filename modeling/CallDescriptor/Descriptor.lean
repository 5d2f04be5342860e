import CallDescriptor.Hex
import CallDescriptor.Slot
/-!
# Descriptors

The text of a descriptor, cut into its fields by character offset:

* 0 and 1, a marker that is not read;
* 2 and 3, the call-type byte, of which only the second digit counts;
* 4 and 5, the declared reference count;
* 6 to 21, the bitmap of referenced params;
* 22 to 65, the stack-slot trailer.

A `Descriptor` is a text of the right length in ASCII, so every field is
there. That its digits are digits is found out field by field.
-/

namespace CallDescriptor

/-- A text with room for every field. -/
structure Descriptor where
  text : String
  length_eq : text.toList.length = descriptorLength
  ascii : ∀ c ∈ text.toList, c.toNat < 128

namespace Descriptor

/-- The first character outside ASCII, with its offset from `offset` on. -/
def findNonAscii (offset : Nat) : List Char → Option (Nat × Char)
  | [] => none
  | c :: cs => if c.toNat < 128 then findNonAscii (offset + 1) cs else some (offset, c)

theorem lt_of_findNonAscii_eq_none {offset : Nat} {cs : List Char}
    (h : findNonAscii offset cs = none) : ∀ c ∈ cs, c.toNat < 128 := by
  induction cs generalizing offset with
  | nil => simp
  | cons c cs ih =>
    simp only [findNonAscii] at h
    split at h
    · next hc => exact List.forall_mem_cons.2 ⟨hc, ih h⟩
    · simp at h

/-- The descriptor a text is, or why it is none: the length is looked at
before the characters are. -/
def ofString (text : String) : Except DecodeError Descriptor :=
  if hlen : text.toList.length = descriptorLength then
    match hascii : findNonAscii 0 text.toList with
    | some (offset, found) => .error (.invalidDigit offset found)
    | none => .ok ⟨text, hlen, lt_of_findNonAscii_eq_none hascii⟩
  else .error (.malformed text.toList.length)

variable (d : Descriptor)

/-- The characters from `first` up to but without `last`. -/
def field (first last : Nat) : List Char := (d.text.toList.drop first).take (last - first)

/-- The digit that stands for the call type. -/
def callTypeDigit : Char :=
  d.text.toList.get ⟨3, by rw [d.length_eq]; decide⟩

/-- The reference count as declared, whatever the bitmap marks. -/
def referenceCount : Except DecodeError UInt8 := do
  let w ← Hex.word 4 (d.field 4 6)
  return w.toUInt8

/-- The digits of the bitmap as written. -/
def bitmapDigits : List Char := d.field 6 22

/-- The bitmap of referenced params. -/
def bitmap : Except DecodeError UInt64 := Hex.word 6 d.bitmapDigits

/-- The trailer as written. -/
def trailer : List Char := d.field trailerOffset descriptorLength

end Descriptor

end CallDescriptor
