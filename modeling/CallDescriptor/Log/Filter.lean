import CallDescriptor.Log.Level
import CallDescriptor.Text.Blank
import CallDescriptor.Text.Pattern.Reader
/-!
# Log filters

A filter is a list of directives, each of which sets the level for the
targets that start with its own or, without a target, for all. The directive
with the longest target decides, of several with equally long ones the last.
Besides, a filter may ask that a pattern occurs in the message. `Filter.ofSpec`
reads both from a text such as `info,store=trace/lost|found`; the directives
refine a base level or, if one of them has no target, replace it.
-/

namespace CallDescriptor

/-- A level for the targets that start with `target`. -/
structure Directive where
  target : Option String
  level : Level
  deriving DecidableEq, Repr

namespace Directive

/-- The number of bytes of the target. -/
def weight (d : Directive) : Nat := (d.target.getD "").utf8ByteSize

/-- Whether the directive is about `target`. -/
def applies (d : Directive) (target : String) : Bool :=
  match d.target with
  | none => true
  | some start => start.toList.isPrefixOf target.toList

/-- The directive an entry of a list stands for. A target alone means
everything; an entry whose level is no level is dropped. -/
def ofEntry? (entry : String) : Option Directive :=
  match entry.splitOn "=" with
  | [single] =>
    match Level.ofName? single with
    | some level => some ⟨none, level⟩
    | none => some ⟨some single, .trace⟩
  | [target, name] =>
    let name := Text.trim name
    if name = "" then some ⟨some target, .trace⟩
    else (Level.ofName? name).map fun level => ⟨some target, level⟩
  | _ => none

end Directive

/-- What is logged. -/
structure Filter where
  /-- The directives in force, at most one for each target. -/
  directives : List Directive
  /-- What has to occur in a message. -/
  pattern : Option Text.Pattern := none
  deriving DecidableEq, Repr

namespace Filter

/-- Adds a directive, in the place of one for the same target. -/
def insert (d : Directive) : List Directive → List Directive
  | [] => [d]
  | e :: rest => if e.target = d.target then d :: rest else e :: insert d rest

/-- The directives of a list. Empty entries count for nothing. -/
def entries (list : String) : List Directive :=
  ((list.splitOn ",").map Text.trim).filterMap fun entry =>
    if entry = "" then none else Directive.ofEntry? entry

/-- The filter of a base level and a text that refines it: a list and, after a
slash, a pattern. What is no pattern counts for nothing, and neither does the
whole text if it has further slashes. -/
def ofSpec (base : Level) (spec : Option String) : Filter :=
  let refined (list : String) := (entries list).foldl (fun ds d => insert d ds) [⟨none, base⟩]
  match (spec.getD "").splitOn "/" with
  | [list] => ⟨refined list, none⟩
  | [list, pattern] => ⟨refined list, Text.Pattern.ofString? pattern⟩
  | _ => ⟨[⟨none, base⟩], none⟩

/-- The weightier of two directives, the second if they weigh the same. -/
def heavier (best : Option Directive) (d : Directive) : Option Directive :=
  match best with
  | none => some d
  | some b => if b.weight ≤ d.weight then some d else some b

/-- The level in force for a target. -/
def levelFor (f : Filter) (target : String) : Level :=
  match (f.directives.filter (·.applies target)).foldl heavier none with
  | some d => d.level
  | none => .off

/-- Whether a message with this level and target is logged. -/
def allows (f : Filter) (level : Level) (target message : String) : Bool :=
  level.passes (f.levelFor target) && f.pattern.all (·.occursIn message.toList)

end Filter

end CallDescriptor
