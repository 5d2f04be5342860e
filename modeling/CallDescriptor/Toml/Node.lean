import CallDescriptor.Toml.Value
/-!
# Tables under construction

While a file is read, a table remembers how it came about, since that decides
what may be added to it: a table of its own header takes no second header, and
one that a dotted key has made takes only further dotted keys.
`Node.alterAt` walks a path of keys, makes the tables that are missing on it and
changes the one at its end; through an array of tables the way leads to the
last of them.
-/

namespace CallDescriptor

namespace Toml

/-- How a table came about. -/
inductive Origin where
  /-- By a header or braces of its own. -/
  | explicit
  /-- By a header for a table inside it. -/
  | implied
  /-- By a dotted key. -/
  | dotted
  deriving DecidableEq, Repr

/-- A value in a table under construction. -/
inductive Node where
  /-- A value that is complete. -/
  | value (v : Value)
  | table (origin : Origin) (entries : List (String × Node))
  /-- An array of tables, each with a header of its own. -/
  | tables (elements : List (List (String × Node)))

/-- The entries of a table under construction. -/
abbrev Entries := List (String × Node)

namespace Entries

/-- The node under a key. -/
def get? (entries : Entries) (key : String) : Option Node :=
  (entries.find? (·.1 == key)).map (·.2)

/-- Puts a node in the place of the one under the same key, or at the end. -/
def put (key : String) (node : Node) : Entries → Entries
  | [] => [(key, node)]
  | (k, n) :: rest => if k = key then (key, node) :: rest else (k, n) :: put key node rest

/-- The entries without the one under a key. -/
def erase (key : String) (entries : Entries) : Entries := entries.filter (·.1 != key)

end Entries

namespace Node

mutual

/-- The value a node stands for. -/
def toValue : Node → Value
  | value v => v
  | table _ entries => .table (toTable entries)
  | tables elements => .tables (toTables elements)

/-- The table that entries stand for. -/
def toTable : List (String × Node) → Table
  | [] => []
  | (key, node) :: rest => (key, toValue node) :: toTable rest

/-- The tables of an array. -/
def toTables : List (List (String × Node)) → List Table
  | [] => []
  | entries :: rest => toTable entries :: toTables rest

end

/-- Changes the table at the end of `path` by `change`, which is told how that
table came about. On a path of dotted keys no table of its own header or
braces may lie. -/
def alterAt (dotted : Bool) (change : Origin → Entries → Option Entries) :
    List String → Origin → Entries → Option Entries
  | [], origin, entries => change origin entries
  | key :: path, _, entries => do
    let node ← match Entries.get? entries key with
      | none =>
        let origin := if dotted then .dotted else .implied
        return entries ++ [(key, table origin (← alterAt dotted change path origin []))]
      | some (value _) => none
      | some (tables elements) =>
        match elements.reverse with
        | last :: others =>
          let last ← alterAt dotted change path .explicit last
          some (tables (last :: others).reverse)
        | [] => none
      | some (table origin inner) =>
        if dotted ∧ origin = .explicit then none
        else some (table origin (← alterAt dotted change path origin inner))
    return Entries.put key node entries

/-- Adds a value under a key at the end of a path of dotted keys. A table of
dotted keys takes values on such a path only, and every other table only on
none. -/
def addValue (path : List String) (key : String) (v : Value) (origin : Origin)
    (entries : Entries) : Option Entries :=
  alterAt true (fun origin entries =>
    if (origin = .dotted : Bool) == path.isEmpty then none
    else if (Entries.get? entries key).isSome then none
    else some (entries ++ [(key, value v)])) path origin entries

end Node

end Toml

end CallDescriptor
