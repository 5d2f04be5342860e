import CallDescriptor.CallConfig.Forms
import CallDescriptor.Hex
import CallDescriptor.Json.Writer
/-!
# Reports

A call configuration as text for a reader, as YAML or as JSON. The text echoes
the descriptor it was decoded from; the two data formats hold the
configuration alone, with its fields in order.
-/

namespace CallDescriptor

/-- The form a report takes. -/
inductive ReportFormat where
  | text
  | yaml
  | json
  deriving DecidableEq, Repr

instance : Named ReportFormat where
  values := [.text, .yaml, .json]
  name
    | .text => "text"
    | .yaml => "yaml"
    | .json => "json"

instance : Inhabited ReportFormat := ⟨.text⟩

namespace Report

/-- A number in decimal. -/
def decimal (n : Nat) : List Char := Nat.toDigits 10 n

/-! ## Text -/

/-- The positions in a row. -/
def positionList (positions : List UInt8) : List Char :=
  List.intercalate [',', ' '] (positions.map fun p => decimal p.toNat)

/-- The slot of a param. -/
def slotText : Option UInt8 → List Char
  | some s => decimal s.toNat
  | none => "<unassigned>".toList

/-- The line of a param. -/
def paramLine (p : Param) : List Char :=
  "replace params[".toList ++ decimal p.position.toNat ++ "] <- local stack[".toList ++
    slotText p.slot ++ "]\n".toList

/-- The report for a reader. -/
def text (descriptor : String) (c : CallConfig) : List Char :=
  "CONFIG:".toList ++ descriptor.toList ++
    "\nParam Type: \t\t\t".toList ++ c.callType.label.toList ++
    "\nReference Count: \t\t".toList ++ decimal c.referenceCount.toNat ++
    "\nParam Config:(".toList ++ Hex.ofWord c.bitmap ++
    ") [".toList ++ positionList c.positions ++
    "]\n========= reference config ===========\n".toList ++
    c.params.flatMap paramLine

/-! ## YAML -/

/-- A slot, or null. -/
def yamlSlot : Option UInt8 → List Char
  | some s => decimal s.toNat
  | none => "null".toList

/-- A param as an item of a block sequence. -/
def yamlParam (p : Param) : List Char :=
  "- position: ".toList ++ decimal p.position.toNat ++
    "\n  stack_slot: ".toList ++ yamlSlot p.slot ++ ['\n']

/-- The params, in flow style where there is none. -/
def yamlParams : List Param → List Char
  | [] => " []\n".toList
  | params => '\n' :: params.flatMap yamlParam

/-- The configuration as a YAML document. -/
def yaml (c : CallConfig) : List Char :=
  "call_type: ".toList ++ (Named.name c.callType).toList ++
    "\nreference_count: ".toList ++ decimal c.referenceCount.toNat ++
    "\nbitmap: ".toList ++ decimal c.bitmap.toNat ++
    "\nparams:".toList ++ yamlParams c.params

/-! ## JSON -/

/-- The configuration as a JSON document. -/
def json (c : CallConfig) : List Char := c.toJson.pretty ++ ['\n']

end Report

/-- The report on what `descriptor` was decoded to. -/
def report (descriptor : String) (c : CallConfig) : ReportFormat → String
  | .text => String.ofList (Report.text descriptor c)
  | .yaml => String.ofList (Report.yaml c)
  | .json => String.ofList (Report.json c)

end CallDescriptor
