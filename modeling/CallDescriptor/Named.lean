/-!
# Closed vocabularies

A setting takes one of a few named values. `Named` lists the values of such a
type with the name of each, and everything that reads a name goes through the
one list: `ofName?` for names as they are written, `ofNameAnyCase?` where the
case of ASCII letters is free. Other scripts have no such freedom: a letter
outside ASCII equals itself only.
-/

namespace CallDescriptor

/-- A type with finitely many values, each under a name of its own. -/
class Named (α : Type) where
  /-- The values, in the order in which messages list them. -/
  values : List α
  /-- The name a value is written under. -/
  name : α → String

namespace Named

variable {α : Type} [Named α]

/-- The names of a vocabulary, in order. -/
def names (α : Type) [Named α] : List String := (values (α := α)).map name

/-- The value under exactly this name. -/
def ofName? (s : String) : Option α := values.find? fun v => name v == s

/-- Lower case of every ASCII letter, all else unchanged. -/
def lowerAscii (s : String) : List Char := s.toList.map Char.toLower

/-- The value under this name up to the case of ASCII letters. -/
def ofNameAnyCase? (s : String) : Option α :=
  values.find? fun v => lowerAscii (name v) == lowerAscii s

end Named

end CallDescriptor
