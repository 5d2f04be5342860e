import CallDescriptor.Named
/-!
# Log levels

A level says how much is logged: a message of one level passes a filter of
the same or a higher one, and `off` lets nothing pass. `Level.raise` goes up
step by step and stays at the top.
-/

namespace CallDescriptor

/-- How much is logged, from nothing to everything. -/
inductive Level where
  | off
  | error
  | warn
  | info
  | debug
  | trace
  deriving DecidableEq, Repr

namespace Level

instance : Named Level where
  values := [off, error, warn, info, debug, trace]
  name
    | off => "OFF"
    | error => "ERROR"
    | warn => "WARN"
    | info => "INFO"
    | debug => "DEBUG"
    | trace => "TRACE"

instance : Inhabited Level := ⟨warn⟩

/-- The place of a level in the order. -/
def rank : Level → Nat
  | off => 0
  | error => 1
  | warn => 2
  | info => 3
  | debug => 4
  | trace => 5

/-- The level at a place, the last one beyond the end. -/
def ofRank : Nat → Level
  | 0 => off
  | 1 => error
  | 2 => warn
  | 3 => info
  | 4 => debug
  | _ => trace

/-- The level `steps` places up. -/
def raise (l : Level) (steps : Nat) : Level := ofRank (l.rank + steps)

/-- Whether a message of this level passes a filter of level `limit`. -/
def passes (l limit : Level) : Bool := l.rank ≤ limit.rank

/-- The level under a name in any case of ASCII letters. -/
def ofName? (name : String) : Option Level := Named.ofNameAnyCase? name

/-- The words for a name that is no level. -/
def unknownNameMessage : String :=
  "attempted to convert a string that doesn't match an existing log level"

end Level

end CallDescriptor
