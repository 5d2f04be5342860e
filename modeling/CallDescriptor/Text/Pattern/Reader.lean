import CallDescriptor.Text.Blank
import CallDescriptor.Text.Digits
import CallDescriptor.Text.Pattern.Classes
import CallDescriptor.Text.Reader
/-!
# Reading patterns

The notation of patterns is the usual one of regular expressions, without
lookaround and back references. Flags say how what follows is to be read, up
to the end of the group in which they stand, and so a reader carries a `Scope`
along. Groups and classes nest at most 250 deep. Whether a repetition takes as
much or as little as it can makes no difference to whether a piece fits, and
the mark for it is dropped.
-/

namespace CallDescriptor

namespace Text

namespace Pattern

/-- How a pattern is to be read. -/
structure Mode where
  anyCase : Bool := false
  /-- The marks for the start and the end of the text stand for those of a line. -/
  byLine : Bool := false
  /-- The mark for any character includes line ends. -/
  anyIncludesLineEnd : Bool := false
  /-- A carriage return ends lines as well. -/
  returns : Bool := false
  /-- White space and comments mean nothing. -/
  spaced : Bool := false
  deriving DecidableEq, Repr

namespace Mode

/-- The mode after one flag. Two flags are about things that a search cannot
show. -/
def set? (value : Bool) (m : Mode) : Char → Option Mode
  | 'i' => some { m with anyCase := value }
  | 'm' => some { m with byLine := value }
  | 's' => some { m with anyIncludesLineEnd := value }
  | 'R' => some { m with returns := value }
  | 'x' => some { m with spaced := value }
  | 'U' => some m
  | 'u' => some m
  | _ => none

/-- The mode after flags, of which those behind a hyphen are taken back. None
may come twice. -/
def setAll? (m : Mode) (flags : List Char) : Option Mode := do
  if flags.eraseDups.length ≠ flags.length ∨ flags.getLast? = some '-' then none
  let given ← (flags.takeWhile (· != '-')).foldlM (set? true) m
  ((flags.dropWhile (· != '-')).drop 1).foldlM (set? false) given

end Mode

/-- What a reader knows of the pattern before it. -/
structure Scope where
  mode : Mode := {}
  /-- The names of groups. -/
  names : List String := []

/-- Reads a part of a pattern. -/
abbrev Scoped (α : Type) := StateT Scope Reader α

namespace Scoped

open Reader

/-- The character `c`. -/
def sign (c : Char) : Scoped Unit := liftM (char c)

/-- The characters of `s`, in order. -/
def signs (s : String) : Scoped Unit := liftM (word s)

/-- The text without white space and comments in front. -/
def pastSpace (inComment : Bool) : List Char → List Char
  | [] => []
  | c :: rest =>
    if inComment then pastSpace (c != '\n') rest
    else if c = '#' then pastSpace true rest
    else if isBlank c then pastSpace false rest
    else c :: rest

/-- Skips white space and comments where they mean nothing. -/
def skip : Scoped Unit := do
  if (← getThe Scope).mode.spaced then liftM (modify (pastSpace false) : Reader Unit)

/-- Skips white space. -/
def blanks : Scoped Unit := liftM (modify (List.dropWhile isBlank) : Reader Unit)

/-- As many values of `r` as there are. -/
def manyOf {α : Type} (r : Scoped α) : Scoped (List α) := do
  let text ← liftM (get : Reader (List Char))
  upTo text.length (optional r)

/-- A set, with the other forms of its characters if case makes no difference. -/
def folded (set : CharSet) : Scoped CharSet := do
  return if (← getThe Scope).mode.anyCase then .anyCase set else set

/-! ## Escapes -/

/-- What a backslash and what follows stand for. -/
inductive Sign where
  | char (c : Char)
  | set (s : CharSet)
  | edge (e : Edge)

/-- A character by its code point: `digits` digits, or any number in braces. -/
def codePoint (digits : Nat) : Scoped Char := do
  skip
  let digit : Scoped Char := do
    let c ← satisfy isHexDigit
    skip
    return c
  let found ← if ← accepts (sign '\x7b') then do
      skip
      let found ← manyOf digit
      sign '\x7d'
      if found.isEmpty then failure
      pure found
    else (List.replicate digits ()).mapM fun _ => digit
  StateT.lift (StateT.lift (charOfHex? found))

/-- A set by a property, whose name is one letter or stands in braces. -/
def property (negated : Bool) : Scoped CharSet := do
  skip
  let name ← if ← accepts (sign '\x7b') then do
      skip
      let name ← manyOf (do
        let c ← satisfy (· != '\x7d')
        skip
        return c)
      sign '\x7d'
      pure name
    else do
      let c ← satisfy (· != '\\')
      pure [c]
  match CharSet.ofProperty? (String.ofList name) with
  | some set =>
    let set ← folded set
    return if negated then .inverse set else set
  | none => failure

/-- The edge of a word that a name in braces stands for. -/
def namedEdge : Scoped Edge := do
  sign '\x7b'
  skip
  let name ← manyOf (do
    let c ← satisfy fun c => c.isAlpha || c == '-'
    skip
    return c)
  sign '\x7d'
  match String.ofList name with
  | "start" => return .wordStart
  | "end" => return .wordEnd
  | "start-half" => return .wordStartHalf
  | "end-half" => return .wordEndHalf
  | _ => failure

/-- A backslash and what follows. Every ASCII character that is no letter or
digit stands for itself, but for two with a meaning of their own. -/
def escape : Scoped Sign := do
  sign '\\'
  let c ← satisfy fun _ => true
  match c with
  | 'x' => .char <$> codePoint 2
  | 'u' => .char <$> codePoint 4
  | 'U' => .char <$> codePoint 8
  | 'p' => .set <$> property false
  | 'P' => .set <$> property true
  | 'a' => return .char '\x07'
  | 'f' => return .char '\x0c'
  | 't' => return .char '\t'
  | 'n' => return .char '\n'
  | 'r' => return .char '\r'
  | 'v' => return .char '\x0b'
  | 'A' => return .edge .textStart
  | 'z' => return .edge .textEnd
  | 'b' => .edge <$> (namedEdge <|> return .word)
  | 'B' => return .edge .noWord
  | '<' => return .edge .wordStart
  | '>' => return .edge .wordEnd
  | c =>
    match CharSet.ofLetter? c with
    | some set => return .set set
    | none => if c.toNat < 128 && !c.isAlphanum then return .char c else failure

/-! ## Classes -/

/-- A named set between `[:` and `:]`. -/
def namedSet : Scoped CharSet := do
  signs "[:"
  let negated ← accepts (sign '^')
  let name ← liftM (takeWhile (· != ':'))
  signs ":]"
  match CharSet.ofWord? (String.ofList name) with
  | some set =>
    let set ← folded set
    return if negated then .inverse set else set
  | none => failure

/-- What stands between two operands of a class, as the combination of both. -/
def setOperator : Scoped (CharSet → CharSet → CharSet) :=
  (do signs "&&"; return .both) <|>
  (do signs "--"; return fun s t => .both s (.inverse t)) <|>
  (do signs "~~"; return fun s t => .both (.either s t) (.inverse (.both s t)))

/-- Whether the hyphen that comes next joins two ends of a range. -/
def atRange : Scoped Bool := do
  let before ← getThe Scope
  let text ← liftM (get : Reader (List Char))
  match text with
  | '-' :: rest =>
    let next := (if before.mode.spaced then pastSpace false rest else rest).head?
    return next != some ']' && next != some '-'
  | _ => return false

/-- One character in a class, or a set by a letter or property. -/
def classSign : Scoped Sign := do
  match ← liftM peek with
  | some '\\' => escape
  | _ => .char <$> satisfy fun _ => true

/-- A range of a class, or what stands there for itself. -/
def rangeOrSign : Scoped CharSet := do
  let first ← classSign
  skip
  if ← atRange then
    sign '-'
    skip
    match first, ← classSign with
    | .char a, .char b => if a ≤ b then folded (.ranges [(a, b)]) else failure
    | _, _ => failure
  else
    match first with
    | .char a => folded (.single a)
    | .set s => return s
    | .edge _ => failure

/-- One item of a class. `nested` reads a class in brackets. -/
def classItem (nested : Scoped CharSet) : Scoped CharSet := do
  skip
  if ← accepts setOperator then failure
  match ← liftM peek with
  | some ']' => failure
  | some '[' => namedSet <|> nested
  | _ => rangeOrSign

/-- A class in brackets, with at most `depth` nested into each other. Hyphens
at the start, or a closing bracket, stand for themselves. -/
def bracketed : Nat → Scoped CharSet
  | 0 => failure
  | depth + 1 => do
    sign '['
    skip
    let negated ← accepts (do sign '^'; skip)
    let hyphens ← manyOf (do sign '-'; skip)
    let bracket ← if hyphens.isEmpty then accepts (do sign ']'; skip) else pure false
    let operand : Scoped CharSet := CharSet.union <$> manyOf (classItem (bracketed depth))
    let first ← operand
    let others ← manyOf (do
      skip
      let combine ← setOperator
      return (combine, ← operand))
    skip
    sign ']'
    let hyphen := if hyphens.isEmpty then .none else .single '-'
    let opening := if bracket then .single ']' else hyphen
    let set := others.foldl (fun s o => o.1 s o.2) (.either opening first)
    return if negated then .inverse set else set

/-! ## Repetitions -/

/-- A number below `2 ^ 32`, with white space around it. -/
def number : Scoped Nat := do
  blanks
  let digits ← manyOf (do
    let c ← satisfy Char.isDigit
    skip
    return c)
  blanks
  let n := digitsValue 10 digits
  if digits.isEmpty ∨ UInt32.size ≤ n then failure else return n

/-- Bounds in braces. -/
def bounds : Scoped (Nat × Option Nat) := do
  sign '\x7b'
  skip
  let least ← number
  let most ← if ← accepts (sign ',') then do
      skip
      if (← liftM peek) = some '\x7d' then pure none else some <$> number
    else pure (some least)
  sign '\x7d'
  skip
  if most.all (least ≤ ·) then return (least, most) else failure

/-- How often a part may come. -/
def repetition : Scoped (Nat × Option Nat) := do
  skip
  let count ← (do sign '*'; return (0, none)) <|> (do sign '+'; return (1, none)) <|>
    (do sign '?'; return (0, some 1)) <|> bounds
  let _ ← accepts (sign '?')
  return count

/-! ## Groups -/

/-- Flags, as the mode after them. -/
def flags : Scoped Mode := do
  let found ← liftM (takeWhile fun c => c != ':' && c != ')')
  StateT.lift (StateT.lift ((← getThe Scope).mode.setAll? found))

/-- Flags in parentheses of their own, which hold for what follows. -/
def flagGroup : Scoped Unit := do
  sign '('
  skip
  sign '?'
  if (← liftM peek) = some ')' then failure
  let mode ← flags
  sign ')'
  modifyThe Scope fun s => { s with mode }

/-- The name of a group, up to its closing bracket. None may come twice. -/
def groupName : Scoped Unit := do
  let isLetter (c : Char) : Bool := c.isAlpha || 128 ≤ c.toNat
  let first ← satisfy fun c => c == '_' || isLetter c
  let others ← liftM (takeWhile fun c => "_.[]".toList.contains c || c.isDigit || isLetter c)
  sign '>'
  let name := String.ofList (first :: others)
  if (← getThe Scope).names.contains name then failure
  modifyThe Scope fun s => { s with names := name :: s.names }

/-- A group whose inside `inner` reads. Flags inside end with it. -/
def group (inner : Scoped Pattern) : Scoped Pattern := do
  sign '('
  skip
  let outer := (← getThe Scope).mode
  if ← accepts (signs "?P<" <|> signs "?<") then groupName
  else if ← accepts (sign '?') then
    let mode ← flags
    sign ':'
    modifyThe Scope fun s => { s with mode }
  let p ← inner
  sign ')'
  modifyThe Scope fun s => { s with mode := outer }
  return p

/-! ## Patterns -/

/-- One part of a pattern, without what says how often it may come. -/
def atom (inner : Scoped Pattern) (depth : Nat) : Scoped Pattern := do
  let mode := (← getThe Scope).mode
  match ← liftM peek with
  | none => failure
  | some '(' => group inner
  | some '[' => .one <$> bracketed depth
  | some '\\' =>
    match ← escape with
    | .char c => .one <$> folded (.single c)
    | .set s => return .one s
    | .edge e => return .edge e
  | some '.' =>
    sign '.'
    return .one <|
      if mode.anyIncludesLineEnd then .all
      else .inverse (if mode.returns then .ofString "\r\n" else .single '\n')
  | some '^' =>
    sign '^'
    return .edge (if mode.byLine then .lineStart mode.returns else .textStart)
  | some '$' =>
    sign '$'
    return .edge (if mode.byLine then .lineEnd mode.returns else .textEnd)
  | some c =>
    if "*+?\x7b|)".toList.contains c then failure
    sign c
    .one <$> folded (.single c)

/-- A part of a pattern with all that says how often it may come. -/
def part (inner : Scoped Pattern) (depth : Nat) : Scoped Pattern := do
  let p ← atom inner depth
  return (← manyOf repetition).foldl (fun p count => .repeated p count.1 count.2) p

/-- Alternatives, with groups and classes at most `depth` deep. -/
def alternatives : Nat → Scoped Pattern
  | 0 => failure
  | depth + 1 => do
    let item : Scoped Pattern := do
      skip
      (do flagGroup; return .empty) <|> part (alternatives depth) depth
    let sequence : Scoped Pattern := do
      return (← manyOf item).foldr .seq .empty
    let first ← sequence
    let others ← manyOf (do skip; sign '|'; sequence)
    skip
    return others.foldl .either first

end Scoped

/-- How deep groups and classes may nest. -/
def maxNesting : Nat := 250

/-- The greatest size of a pattern. -/
def maxSize : Nat := 327680

/-- The pattern that a text describes. -/
def ofString? (text : String) : Option Pattern := do
  let (p, _) ← Reader.run? (StateT.run (Scoped.alternatives (maxNesting + 1)) {}) text.toList
  if p.size ≤ maxSize then return p else none

end Pattern

end Text

end CallDescriptor
