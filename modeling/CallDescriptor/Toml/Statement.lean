import CallDescriptor.Toml.Node
import CallDescriptor.Toml.Number
import CallDescriptor.Toml.Text
/-!
# TOML statements

A file is a sequence of lines, each of which adds an entry to the table at
hand, opens a table, or says nothing. Here the text is cut into these
statements and their values are read; what the statements build is a matter
of `Toml.Document`. Arrays and tables within one value nest at most 99 deep.
-/

namespace CallDescriptor

namespace Toml

open Text Text.Reader

/-- A line that says something. A key is the path to it and its last part. -/
inductive Statement where
  /-- An entry of the table at hand. -/
  | entry (path : List String) (key : String) (v : Value)
  /-- The header of a table. -/
  | header (path : List String) (key : String)
  /-- The header of the next table of an array. -/
  | elementHeader (path : List String) (key : String)
  deriving Repr

/-- A key, cut before its last part. -/
def splitKey : Reader (List String × String) := do
  let parts ← key
  match parts.getLast? with
  | some last => return (parts.dropLast, last)
  | none => failure

/-- The entries that stand in braces, as one table. -/
def buildInline (entries : List ((List String × String) × Value)) : Option Value := do
  let built ← entries.foldlM
    (fun acc e => Node.addValue e.1.1 e.1.2 e.2 .explicit acc) []
  return .table (Node.toTable built)

/-- The items of an array, whose values `item` reads. Line ends and comments may
stand between them, and a comma after the last. -/
def arrayItems (item : Reader Value) : Reader Value := do
  char '['
  blankLines
  let items ← sepBy1 (do
    blankLines
    let v ← item
    blankLines
    return v) (char ',') <|> return []
  if !items.isEmpty then
    let _ ← optional (char ',')
    blankLines
  char ']'
  return .array items

/-- The entries of a table in braces, whose values `item` reads. -/
def inlineEntries (item : Reader Value) : Reader Value := do
  char '\x7b'
  blank
  let entries ← sepBy1 (do
    let k ← splitKey
    char '='
    blank
    let v ← item
    blank
    return (k, v)) (char ',') <|> return []
  char '\x7d'
  StateT.lift (buildInline entries)

/-- A value that holds no other. -/
def scalar : Reader Value := do
  match ← peek with
  | some '"' => .string <$> anyString
  | some '\'' => .string <$> anyString
  | some 't' => do word "true"; return .boolean true
  | some 'f' => do word "false"; return .boolean false
  | _ => datetime <|> decimalReal <|> specialReal <|> integer

/-- A value, where `item` reads those that it holds. -/
def anyOf (item : Reader Value) : Reader Value := do
  match ← peek with
  | some '[' => arrayItems item
  | some '\x7b' => inlineEntries item
  | _ => scalar

/-- A value in which arrays and tables nest at most as deep as given. -/
def value : Nat → Reader Value
  | 0 => scalar
  | depth + 1 => anyOf (value depth)

/-- How deep arrays and tables within one value may nest. -/
def maxDepth : Nat := 99

/-- An entry. -/
def entryStatement : Reader Statement := do
  let (path, key) ← splitKey
  char '='
  blank
  return .entry path key (← value maxDepth)

/-- A header. -/
def headerStatement : Reader Statement := do
  char '['
  if ← accepts (char '[') then
    let (path, key) ← splitKey
    word "]]"
    return .elementHeader path key
  else
    let (path, key) ← splitKey
    char ']'
    return .header path key

/-- A line without its end. -/
def line : Reader (Option Statement) := do
  blank
  let statement ← match ← peek with
    | none => pure none
    | some '#' => pure none
    | some '\n' => pure none
    | some '\r' => pure none
    | some '[' => some <$> headerStatement
    | _ => some <$> entryStatement
  blank
  let _ ← optional comment
  return statement

/-- The statements of a file. A byte order mark may stand in front. -/
def statements : Reader (List Statement) := do
  let _ ← optional (char '\ufeff')
  return (← sepBy1 line newline).filterMap id

end Toml

end CallDescriptor
