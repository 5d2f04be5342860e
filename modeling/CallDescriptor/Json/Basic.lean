import CallDescriptor.Number.Shortest
/-!
# JSON values

A value of the JSON data model. A number keeps what its text shows: one
without point and exponent is an integer, every other a binary64 number. The
members of an object are a list, and `insertMember` keeps it sorted by name
with one member for each name, the last one given.
-/

namespace CallDescriptor

/-- A JSON value. -/
inductive Json where
  | null
  | boolean (b : Bool)
  | integer (i : Int)
  | real (x : Binary64)
  | string (s : String)
  | array (items : List Json)
  | object (members : List (String × Json))
  deriving Repr

namespace Json

/-- Positional notation reaches from a fifth place after the point to a
sixteenth before it, and of two equally near decimals the even one stands. -/
def realStyle : DecimalStyle := ⟨some (-5, 15), .toEven⟩

/-- Adds a member in its place, instead of one of the same name. -/
def insertMember (name : String) (value : Json) : List (String × Json) → List (String × Json)
  | [] => [(name, value)]
  | (n, v) :: rest =>
    if name < n then (name, value) :: (n, v) :: rest
    else if name = n then (name, value) :: rest
    else (n, v) :: insertMember name value rest

/-- The object that results from giving members one after the other. -/
def ofMembers (members : List (String × Json)) : Json :=
  object (members.foldl (fun acc m => insertMember m.1 m.2 acc) [])

/-- The value of a member. -/
def member? (name : String) : Json → Option Json
  | object members => (members.find? (·.1 == name)).map (·.2)
  | _ => none

end Json

end CallDescriptor
