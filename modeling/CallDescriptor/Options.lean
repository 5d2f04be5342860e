import CallDescriptor.Named
/-!
# Options of decoding

Two choices a caller has: how the filler of the stack-slot trailer is told
from slots, and which counts have to agree for a descriptor to be accepted.
-/

namespace CallDescriptor

/-- How filler is dropped from the trailer. -/
inductive Padding where
  /-- The run of `ff` bytes at the right end is filler. -/
  | trailing
  /-- Every pair of adjacent `f` digits is filler, wherever it stands. -/
  | legacy
  deriving DecidableEq, Repr

/-- Which counts have to agree. Each level asks for what the one before it
asks for. -/
inductive Validation where
  /-- No count has to. -/
  | permissive
  /-- There is one slot for each referenced param. -/
  | slots
  /-- The declared reference count is the number of referenced params, too. -/
  | full
  deriving DecidableEq, Repr

instance : Named Padding where
  values := [.trailing, .legacy]
  name
    | .trailing => "trailing"
    | .legacy => "legacy"

instance : Named Validation where
  values := [.permissive, .slots, .full]
  name
    | .permissive => "permissive"
    | .slots => "slots"
    | .full => "full"

instance : Inhabited Padding := ⟨.trailing⟩
instance : Inhabited Validation := ⟨.permissive⟩

namespace Validation

/-- Whether the number of slots has to be the number of params. -/
def checksSlots (v : Validation) : Bool := v = slots || v = full

/-- Whether the declared reference count has to be the number of params. -/
def checksReferenceCount (v : Validation) : Bool := v = full

end Validation

/-- The choices a descriptor is decoded under. -/
structure Options where
  padding : Padding := .trailing
  validation : Validation := .permissive
  deriving DecidableEq, Repr, Inhabited

/-- The words for a name that no option has. -/
def Options.unknownNameMessage : String := "Matching variant not found"

end CallDescriptor
