/-!
# Patterns

A pattern stands for the pieces of text that fit it. What stands around a
piece can matter too, so pieces are cut at spots, which are places in a text
with the character before and all characters after. `Pattern.ends` takes the
spots where pieces may start to those where they may end, all at once, and so
never walks one way twice; `Pattern.occursIn` says whether any piece of a text
fits. Words are ASCII words.
-/

namespace CallDescriptor

namespace Text

/-- A set of characters. -/
inductive CharSet where
  /-- The characters from a first to a last one, for each such pair. -/
  | ranges (bounds : List (Char × Char))
  | inverse (s : CharSet)
  | either (s t : CharSet)
  | both (s t : CharSet)
  /-- With a character its forms in the other case. -/
  | anyCase (s : CharSet)
  deriving DecidableEq, Repr

namespace CharSet

/-- One character. -/
def single (c : Char) : CharSet := ranges [(c, c)]

/-- No character. -/
def none : CharSet := ranges []

/-- Every character. -/
def all : CharSet := inverse none

/-- The union of sets. -/
def union (sets : List CharSet) : CharSet := sets.foldr either none

/-- The characters that differ from `c` in case at most. Besides the ASCII
pairs, the Kelvin sign is a form of k and the long s one of s. -/
def caseForms (c : Char) : List Char :=
  match [['k', 'K', '\u212a'], ['s', 'S', '\u017f']].find? (·.contains c) with
  | some forms => forms
  | Option.none => [c, c.toLower, c.toUpper]

/-- Whether `c` is in the set. -/
def contains : CharSet → Char → Bool
  | ranges bounds, c => bounds.any fun b => b.1 ≤ c && c ≤ b.2
  | inverse s, c => !s.contains c
  | either s t, c => s.contains c || t.contains c
  | both s t, c => s.contains c && t.contains c
  | anyCase s, c => (caseForms c).any s.contains

end CharSet

/-- A place in a text. -/
structure Spot where
  before : Option Char
  after : List Char
  deriving DecidableEq, Repr

namespace Spot

/-- The spots of a text that begins after `before`, from first to last. -/
def along (before : Option Char) : List Char → List Spot
  | [] => [⟨before, []⟩]
  | c :: rest => ⟨before, c :: rest⟩ :: along (some c) rest

/-- The spot behind the next character, if that is in the set. -/
def step? (set : CharSet) (s : Spot) : Option Spot :=
  match s.after with
  | [] => none
  | c :: rest => if set.contains c then some ⟨some c, rest⟩ else none

/-- The greatest number of characters that follow one of the spots. -/
def reach (spots : List Spot) : Nat := (spots.map (·.after.length)).foldl max 0

/-- The spots of two lists, each once if it is so in both. -/
def union (spots others : List Spot) : List Spot :=
  spots ++ others.filter fun s => !spots.contains s

end Spot

/-- What a pattern may ask of a spot. -/
inductive Edge where
  | textStart
  | textEnd
  /-- The start of a line; if `returns`, a carriage return ends lines as well. -/
  | lineStart (returns : Bool)
  /-- The end of a line; if `returns`, a carriage return ends lines as well. -/
  | lineEnd (returns : Bool)
  /-- Where a word starts or ends. -/
  | word
  /-- Where no word starts or ends. -/
  | noWord
  | wordStart
  | wordEnd
  /-- No character of a word stands before. -/
  | wordStartHalf
  /-- No character of a word stands after. -/
  | wordEndHalf
  deriving DecidableEq, Repr

namespace Edge

/-- Whether `c` is a character of a word. -/
def isWordChar (c : Char) : Bool := c.isAlphanum || c == '_'

/-- Whether a spot is as asked. A line feed after a carriage return belongs to
the same line end. -/
def holds (e : Edge) (s : Spot) : Bool :=
  let before := s.before
  let after := s.after.head?
  let wordBefore := before.any isWordChar
  let wordAfter := after.any isWordChar
  match e with
  | textStart => before.isNone
  | textEnd => after.isNone
  | lineStart false => before.isNone || before == some '\n'
  | lineStart true =>
    before.isNone || before == some '\n' || (before == some '\r' && after != some '\n')
  | lineEnd false => after.isNone || after == some '\n'
  | lineEnd true =>
    after.isNone || after == some '\r' || (after == some '\n' && before != some '\r')
  | word => wordBefore != wordAfter
  | noWord => wordBefore == wordAfter
  | wordStart => !wordBefore && wordAfter
  | wordEnd => wordBefore && !wordAfter
  | wordStartHalf => !wordBefore
  | wordEndHalf => !wordAfter

end Edge

/-- A description of pieces of text. -/
inductive Pattern where
  /-- The empty piece. -/
  | empty
  /-- One character of a set. -/
  | one (set : CharSet)
  /-- The empty piece at certain spots. -/
  | edge (e : Edge)
  | seq (p q : Pattern)
  | either (p q : Pattern)
  /-- From `least` to `most` pieces in a row, or any greater number of them. -/
  | repeated (p : Pattern) (least : Nat) (most : Option Nat)
  deriving DecidableEq, Repr

namespace Pattern

/-- The spots that exactly `n` rounds of `step` lead to. -/
def rounds (step : List Spot → List Spot) : Nat → List Spot → List Spot
  | 0, spots => spots
  | n + 1, spots => rounds step n (step spots)

/-- The spots in `seen` and those that at most `n` rounds of `step` lead to from
`latest`. It is enough to go on from spots that are new. -/
def within (step : List Spot → List Spot) : Nat → List Spot → List Spot → List Spot
  | 0, seen, _ => seen
  | n + 1, seen, latest =>
    match (step latest).filter fun s => !seen.contains s with
    | [] => seen
    | fresh => within step n (seen ++ fresh) fresh

/-- The spots where a piece may end that starts at one of `spots`. A round that
takes no character stays where it is, so rounds beyond the number of the
characters that follow, and one more, change nothing. -/
def ends : Pattern → List Spot → List Spot
  | empty, spots => spots
  | one set, spots => spots.filterMap (Spot.step? set)
  | edge e, spots => spots.filter e.holds
  | seq p q, spots => q.ends (p.ends spots)
  | either p q, spots => Spot.union (p.ends spots) (q.ends spots)
  | repeated p least most, spots =>
    let reach := Spot.reach spots
    let start := rounds p.ends (min least (reach + 1)) spots
    let further :=
      match most with
      | none => reach
      | some most => min (most - least) reach
    within p.ends further start start

/-- Whether a piece of the text fits. -/
def occursIn (p : Pattern) (text : List Char) : Bool :=
  !(p.ends (Spot.along none text)).isEmpty

/-- The number of single characters and conditions in a pattern that is written
out without repetitions. -/
def size : Pattern → Nat
  | empty => 0
  | one _ => 1
  | edge _ => 1
  | seq p q => p.size + q.size
  | either p q => p.size + q.size
  | repeated p least most => p.size * max 1 (most.getD least)

end Pattern

end Text

end CallDescriptor
