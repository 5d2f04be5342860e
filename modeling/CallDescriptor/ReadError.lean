import CallDescriptor.Number.Shortest
import CallDescriptor.Text.Quoted
/-!
# Why a data value is refused

JSON values and settings files are read into typed values by the same rules,
and where a value does not fit, one of these causes says why. What stands
between back quotes in a message is not quoted any further.
-/

namespace CallDescriptor

/-- A data value as a message names it. -/
inductive Found where
  | null
  | boolean (b : Bool)
  | integer (i : Int)
  /-- A number with a fraction, in the style of the format it comes from. -/
  | real (x : Binary64) (style : DecimalStyle)
  | string (s : String)
  | sequence
  | map
  deriving DecidableEq, Repr

/-- The words for a value. -/
def Found.message : Found → String
  | null => "null"
  | boolean b => s!"boolean `{b}`"
  | integer i => s!"integer `{i}`"
  | real x style => s!"floating point `{x.text style}`"
  | string s => s!"string {Text.quoteString s}"
  | sequence => "sequence"
  | map => "map"

/-- Why a data value does not fit. -/
inductive ReadError where
  /-- A value of the wrong kind. -/
  | invalidType (found : Found) (wanted : String)
  /-- A value of the right kind that is out of range. -/
  | invalidValue (found : Found) (wanted : String)
  /-- A name outside its vocabulary. -/
  | unknownVariant (name : String) (known : List String)
  /-- A record without one of its fields. -/
  | missingField (name : String)
  /-- A sequence with too few elements for a record. -/
  | tooShort (length : Nat) (wanted : String)
  /-- A sequence with more elements than the record has fields. -/
  | tooLong (length : Nat)
  /-- A settings value that is neither a string nor a table. -/
  | wantedStringOrTable
  /-- A settings table that should hold one entry and holds none. -/
  | noEntry
  /-- A settings table that should hold one entry and holds more. -/
  | moreThanOneEntry
  /-- An array or a table of settings that is not empty, under a name that takes no content. -/
  | unwantedElements
  /-- Tables of settings with headers of their own, under a name that takes no content. -/
  | unwantedTables
  /-- Another settings value, of this kind, under a name that takes none. -/
  | unwantedContent (kind : String)
  deriving DecidableEq, Repr

namespace ReadError

/-- Names as alternatives. -/
def alternatives : List String → String
  | [a] => s!"`{a}`"
  | [a, b] => s!"`{a}` or `{b}`"
  | names => "one of " ++ String.intercalate ", " (names.map fun n => s!"`{n}`")

/-- The words for a reader. -/
def message : ReadError → String
  | invalidType found wanted => s!"invalid type: {found.message}, expected {wanted}"
  | invalidValue found wanted => s!"invalid value: {found.message}, expected {wanted}"
  | unknownVariant name known => s!"unknown variant `{name}`, expected {alternatives known}"
  | missingField name => s!"missing field `{name}`"
  | tooShort length wanted => s!"invalid length {length}, expected {wanted}"
  | tooLong length => s!"invalid length {length}, expected fewer elements in array"
  | wantedStringOrTable => "wanted string or table"
  | noEntry => "wanted exactly 1 element, found 0 elements"
  | moreThanOneEntry => "wanted exactly 1 element, more than 1 element"
  | unwantedElements => "expected empty table"
  | unwantedTables => "expected empty array"
  | unwantedContent kind => s!"expected table, found {kind}"

end ReadError

end CallDescriptor
