import CallDescriptor.Json.Basic
/-!
# Writing JSON text

`Json.pretty` lays a value out over lines: each item or member stands on a
line of its own, indented by two spaces for each array or object around it,
and an empty array or object is written in one piece.
-/

namespace CallDescriptor

namespace Json

/-- `c` inside a string. -/
def escapeChar (c : Char) : List Char :=
  if c = '"' then ['\\', '"']
  else if c = '\\' then ['\\', '\\']
  else if c = '\x08' then ['\\', 'b']
  else if c = '\x0c' then ['\\', 'f']
  else if c = '\n' then ['\\', 'n']
  else if c = '\r' then ['\\', 'r']
  else if c = '\t' then ['\\', 't']
  else if c.toNat < ' '.toNat then
    ['\\', 'u', '0', '0', Nat.digitChar (c.toNat / 16), Nat.digitChar (c.toNat % 16)]
  else [c]

/-- A string with its quotes. -/
def quote (s : String) : List Char := '"' :: s.toList.flatMap escapeChar ++ ['"']

/-- A line break and the indentation of the line it opens. -/
def newline (depth : Nat) : List Char := '\n' :: List.replicate (2 * depth) ' '

mutual

/-- The text of a value inside `depth` arrays and objects. -/
def prettyAt (depth : Nat) : Json → List Char
  | null => "null".toList
  | boolean b => (if b then "true" else "false").toList
  | integer i => (toString i).toList
  | real x => (x.text realStyle).toList
  | string s => quote s
  | array [] => ['[', ']']
  | array (item :: items) =>
    '[' :: newline (depth + 1) ++ prettyAt (depth + 1) item ++ prettyItems (depth + 1) items ++
      newline depth ++ [']']
  | object [] => ['\x7b', '\x7d']
  | object ((name, v) :: members) =>
    '\x7b' :: newline (depth + 1) ++ quote name ++ [':', ' '] ++ prettyAt (depth + 1) v ++
      prettyMembers (depth + 1) members ++ newline depth ++ ['\x7d']

/-- The items after the first, each after its comma. -/
def prettyItems (depth : Nat) : List Json → List Char
  | [] => []
  | item :: items => ',' :: newline depth ++ prettyAt depth item ++ prettyItems depth items

/-- The members after the first, each after its comma. -/
def prettyMembers (depth : Nat) : List (String × Json) → List Char
  | [] => []
  | (name, v) :: members =>
    ',' :: newline depth ++ quote name ++ [':', ' '] ++ prettyAt depth v ++
      prettyMembers depth members

end

/-- The text of a value, over lines. -/
def pretty (v : Json) : List Char := prettyAt 0 v

end Json

end CallDescriptor
