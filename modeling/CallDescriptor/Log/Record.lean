import CallDescriptor.Hex
import CallDescriptor.Log.Filter
import CallDescriptor.Settings
import CallDescriptor.Trace
/-!
# Log records

What a run logs: its settings, then the events of decoding, each under the
target of the part that reports it. A record becomes a line of the log if the
filter allows it.
-/

namespace CallDescriptor

/-- A message with its level and target. -/
structure LogRecord where
  level : Level
  target : String
  message : String
  deriving DecidableEq, Repr

namespace LogRecord

/-- The record as a line. Levels have room for five letters. -/
def line (r : LogRecord) : String :=
  let name := Named.name r.level
  "[" ++ name ++ String.ofList (List.replicate (5 - name.length) ' ') ++ " " ++ r.target ++ "] " ++
    r.message

/-- A name with a capital first letter and all others small. -/
def capitalized (name : String) : String :=
  match name.toList with
  | [] => ""
  | c :: cs => String.ofList (c.toUpper :: cs.map Char.toLower)

/-- Positions in brackets. -/
def positionList (positions : List UInt8) : String :=
  "[" ++ String.intercalate ", " (positions.map fun p => toString p.toNat) ++ "]"

/-- The record that opens a run. -/
def ofSettings (s : Settings) : LogRecord where
  level := .debug
  target := "decoder"
  message := "decoder settings: DecoderConfig \x7b padding: " ++
    capitalized (Named.name s.padding) ++
    ", validation: " ++ capitalized (Named.name s.validation) ++
    ", format: " ++ capitalized (Named.name s.format) ++
    ", logger: LoggerConfig \x7b level_filter: " ++ capitalized (Named.name s.level) ++ " \x7d \x7d"

/-- The record of an event of decoding. -/
def ofEvent : Event → LogRecord
  | .callType digit callType =>
    ⟨.debug, "taskcfg_core::call_type",
      "call type digit " ++ Text.quoteChar digit ++ " -> " ++ callType.label⟩
  | .bitmap bitmap positions =>
    ⟨.debug, "taskcfg_core::params",
      "bitmap " ++ String.ofList (Hex.ofWord bitmap) ++ " -> positions " ++ positionList positions⟩
  | .referenceCount declared referenced =>
    ⟨.debug, "taskcfg_core",
      s!"declared reference count {declared} differs from {referenced} referenced params"⟩
  | .slotCount slots params =>
    ⟨.warn, "taskcfg_core::slots",
      s!"trailer holds {slots} stack slots for {params} referenced params, pairing stops early"⟩
  | .paired position slot =>
    ⟨.trace, "taskcfg_core::slots",
      s!"params[{position.toNat}] <- local stack[{slot.toNat}]"⟩

end LogRecord

/-- The lines that a filter leaves of records, in order. -/
def Filter.lines (f : Filter) (records : List LogRecord) : List String :=
  (records.filter fun r => f.allows r.level r.target r.message).map LogRecord.line

end CallDescriptor
