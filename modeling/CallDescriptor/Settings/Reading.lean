import CallDescriptor.Record
import CallDescriptor.Settings
import CallDescriptor.Toml.Document
/-!
# Reading settings

Settings stand in a TOML table. Each key is optional and read by itself, and
other keys are ignored. A name is a string, or a table with the name as its
one key and something empty as its value; the log level stands under
`level_filter` in a table `logger`, or as the first element of an array.
-/

namespace CallDescriptor

namespace Toml

namespace Value

/-- All numbers are in positional notation, and of two equally near decimals
the greater one stands. -/
def realStyle : DecimalStyle := ⟨none, .up⟩

/-- The kind of a value, in a word. -/
def kind : Value → String
  | string _ => "string"
  | integer _ => "integer"
  | real _ => "float"
  | boolean _ => "boolean"
  | datetime _ => "datetime"
  | array _ => "array"
  | tables _ => "array of tables"
  | table _ => "table"

/-- Accepts what may stand after a name that takes no content. -/
def readNothing : Value → Except ReadError Unit
  | array [] => .ok ()
  | array _ => .error .unwantedElements
  | tables [] => .ok ()
  | tables _ => .error .unwantedTables
  | table [] => .ok ()
  | table _ => .error .unwantedElements
  | v => .error (.unwantedContent v.kind)

/-- A name that `read` knows. -/
def readName {α : Type} (read : String → Except ReadError α) (v : Value) : Except ReadError α :=
  match v with
  | string name => read name
  | table [(name, content)] => do
    let a ← read name
    readNothing content
    return a
  | table [] => .error .noEntry
  | table _ => .error .moreThanOneEntry
  | _ => .error .wantedStringOrTable

end Value

end Toml

namespace Level

/-- The level under a name, in any case of ASCII letters. -/
def read (name : String) : Except ReadError Level :=
  match ofName? name with
  | some level => .ok level
  | none => .error (.unknownVariant name (Named.names Level))

end Level

namespace Settings

open Record Toml

/-- The value of `logger`. A moment has entries of its own in the data model,
and the level is not among them. -/
def readLogger (v : Value) : Except ReadError Level :=
  let wanted := "struct LoggerConfig"
  match v with
  | .table entries => do
    checkEntries [("level_filter", check (Value.readName Level.read))] entries
    required entries "level_filter" (Value.readName Level.read)
  | .array items => requiredAt (wanted ++ " with 1 element") items 0 (Value.readName Level.read)
  | .tables elements =>
    requiredAt (wanted ++ " with 1 element") (elements.map .table) 0 (Value.readName Level.read)
  | .datetime _ => .error (.missingField "level_filter")
  | .string s => .error (.invalidType (.string s) wanted)
  | .integer i => .error (.invalidType (.integer i) wanted)
  | .real x => .error (.invalidType (.real x Value.realStyle) wanted)
  | .boolean b => .error (.invalidType (.boolean b) wanted)

/-- The settings that a table gives, with the default for each key that is
not there. -/
def ofTable (entries : Table) : Except ReadError Settings := do
  let padding := Value.readName (Named.read (α := Padding))
  let validation := Value.readName (Named.read (α := Validation))
  let format := Value.readName (Named.read (α := ReportFormat))
  checkEntries [("padding", check padding), ("validation", check validation),
    ("format", check format), ("logger", check readLogger)] entries
  return {
    padding := ← optionalOr .trailing entries "padding" padding
    validation := ← optionalOr .permissive entries "validation" validation
    format := ← optionalOr .text entries "format" format
    level := ← optionalOr .warn entries "logger" readLogger }

end Settings

/-- Why a settings text is refused. -/
inductive SettingsError where
  /-- It is no TOML document. -/
  | notToml
  /-- A value does not fit. -/
  | badValue (cause : ReadError)
  deriving DecidableEq, Repr

/-- The settings that a TOML text gives. -/
def Settings.ofToml (text : String) : Except SettingsError Settings :=
  match Toml.ofString? text with
  | none => .error .notToml
  | some entries => (ofTable entries).mapError .badValue

end CallDescriptor
