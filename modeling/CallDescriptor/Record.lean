import CallDescriptor.ReadError
import CallDescriptor.Named
/-!
# Records in data

A record stands in data as named entries or as a sequence of its fields in
order. Of the entries the first bad one is blamed, in the order in which they
stand; that a field is missing is noticed only when no entry is bad; and
entries under other names are ignored. Of a sequence the first bad or missing
element is blamed, and after the last field it must end.
-/

namespace CallDescriptor

namespace Record

variable {α β : Type}

/-- The value under a name. -/
def entry? (entries : List (String × β)) (name : String) : Option β :=
  (entries.find? (·.1 == name)).map (·.2)

/-- How the entry of each field is checked. -/
abbrev Checks (β : Type) := List (String × (β → Except ReadError Unit))

/-- A reader without its result. -/
def check (read : β → Except ReadError α) (v : β) : Except ReadError Unit :=
  (read v).map fun _ => ()

/-- Fails at the first entry that its field refuses. -/
def checkEntries (checks : Checks β) (entries : List (String × β)) : Except ReadError Unit :=
  entries.forM fun e =>
    match checks.find? (·.1 == e.1) with
    | some c => c.2 e.2
    | none => .ok ()

/-- The field under `name`, which has to be there. -/
def required (entries : List (String × β)) (name : String) (read : β → Except ReadError α) :
    Except ReadError α :=
  match entry? entries name with
  | some v => read v
  | none => .error (.missingField name)

/-- The field under `name`, or `default` where there is none. -/
def optionalOr (default : α) (entries : List (String × β)) (name : String)
    (read : β → Except ReadError α) : Except ReadError α :=
  match entry? entries name with
  | some v => read v
  | none => .ok default

/-- The field at `index`, which has to be there. -/
def requiredAt (wanted : String) (items : List β) (index : Nat)
    (read : β → Except ReadError α) : Except ReadError α :=
  match items[index]? with
  | some v => read v
  | none => .error (.tooShort index wanted)

/-- The field at `index`, or `default` where the sequence ends before it. -/
def optionalAt (default : α) (items : List β) (index : Nat)
    (read : β → Except ReadError α) : Except ReadError α :=
  match items[index]? with
  | some v => read v
  | none => .ok default

/-- Refuses elements after the last of `fields` fields. -/
def checkEnd (fields : Nat) (items : List β) : Except ReadError Unit :=
  if items.length ≤ fields then .ok () else .error (.tooLong items.length)

end Record

/-- The value of a vocabulary under a name. -/
def Named.read {α : Type} [Named α] (name : String) : Except ReadError α :=
  match Named.ofName? name with
  | some v => .ok v
  | none => .error (.unknownVariant name (Named.names α))

end CallDescriptor
