import CallDescriptor.Toml.Statement
/-!
# TOML documents

A document is the table that the statements of a file build. An entry goes to
the table whose header came last, or to the document itself before the first
header. That table is put in its place when the next header or the end comes,
behind the entries that are there by then.
-/

namespace CallDescriptor

namespace Toml

/-- The place of the table at hand. -/
inductive Place where
  /-- The document itself. -/
  | document
  | table (path : List String) (key : String)
  /-- The next table of an array. -/
  | element (path : List String) (key : String)
  deriving DecidableEq, Repr

/-- A document under construction: what is in place, and the table at hand. -/
structure Draft where
  placed : Entries := []
  place : Place := .document
  atHand : Entries := []

namespace Draft

/-- Puts the table at hand in its place. -/
def settle (d : Draft) : Option Entries :=
  match d.place with
  | .document => some d.atHand
  | .table path key =>
    Node.alterAt false (fun _ entries => some (entries ++ [(key, .table .explicit d.atHand)]))
      path .explicit d.placed
  | .element path key =>
    Node.alterAt false (fun _ entries =>
      match Entries.get? entries key with
      | some (.tables elements) =>
        some (Entries.put key (.tables (elements ++ [d.atHand])) entries)
      | _ => none) path .explicit d.placed

/-- The entries of the table that a header opens: none, unless headers for
tables inside it have come before. -/
def reopened (entries : Entries) (key : String) : Option Entries :=
  match Entries.get? entries key with
  | none => some []
  | some (.table .implied inner) => some inner
  | some _ => none

/-- The table at the end of a path that is there. -/
def lookUp : List String → Entries → Entries
  | [], entries => entries
  | key :: path, entries =>
    match Entries.get? entries key with
    | some (.table _ inner) => lookUp path inner
    | some (.tables elements) => lookUp path (elements.getLast?.getD [])
    | _ => []

/-- Opens the table of a header. It leaves its place until it is settled. -/
def openTable (path : List String) (key : String) (placed : Entries) : Option Draft := do
  let atHand ← reopened (lookUp path placed) key
  let placed ← Node.alterAt false (fun _ entries => some (Entries.erase key entries))
    path .explicit placed
  return { placed, place := .table path key, atHand }

/-- Opens the next table of an array. The array keeps its place. -/
def openElement (path : List String) (key : String) (placed : Entries) : Option Draft := do
  let placed ← Node.alterAt false (fun _ entries =>
    match Entries.get? entries key with
    | none => some (entries ++ [(key, .tables [])])
    | some (.tables _) => some entries
    | some _ => none) path .explicit placed
  return { placed, place := .element path key, atHand := [] }

/-- What a statement does. -/
def step (d : Draft) : Statement → Option Draft
  | .entry path key v => do
    return { d with atHand := ← Node.addValue path key v .explicit d.atHand }
  | .header path key => do openTable path key (← d.settle)
  | .elementHeader path key => do openElement path key (← d.settle)

end Draft

/-- The table that statements build. -/
def build (statements : List Statement) : Option Table := do
  let d ← statements.foldlM Draft.step {}
  return Node.toTable (← d.settle)

/-- The table a text stands for, if it is a TOML document. -/
def ofString? (text : String) : Option Table := do
  build (← statements.run? text.toList)

end Toml

end CallDescriptor
