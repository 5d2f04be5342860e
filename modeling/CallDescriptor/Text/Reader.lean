/-!
# Readers

A `Reader` takes a value off the front of a text or refuses the text. Readers
are put together with `do`; of two alternatives the second starts where the
first did. Repetition is bounded by the length of the text, which loses
nothing: every round that counts takes a character.
-/

namespace CallDescriptor

namespace Text

/-- Takes a value off the front of a text, or refuses it. -/
abbrev Reader (α : Type) := StateT (List Char) Option α

namespace Reader

variable {α β : Type} {m : Type → Type}

/-- The value of a reader that accepts all of `text`. -/
def run? (r : Reader α) (text : List Char) : Option α :=
  match StateT.run r text with
  | some (a, []) => some a
  | _ => none

/-- The next character, left where it is. -/
def peek : Reader (Option Char) := fun text => some (text.head?, text)

/-- The next character that satisfies `p`. -/
def satisfy (p : Char → Bool) : Reader Char
  | c :: rest => if p c then some (c, rest) else none
  | [] => none

/-- The character `c`. -/
def char (c : Char) : Reader Unit := do
  let _ ← satisfy (· == c)

/-- The characters of `s`, in order. -/
def word (s : String) : Reader Unit := s.toList.forM char

/-- The longest run of characters that satisfy `p`. -/
def takeWhile (p : Char → Bool) : Reader (List Char) :=
  fun text => some (text.takeWhile p, text.dropWhile p)

/-- The longest run of characters that satisfy `p`, at least one. -/
def takeWhile1 (p : Char → Bool) : Reader (List Char) := do
  let cs ← takeWhile p
  if cs.isEmpty then failure else return cs

/-- The next `n` characters, each of which satisfies `p`. -/
def count (n : Nat) (p : Char → Bool) : Reader (List Char) :=
  (List.replicate n ()).mapM fun _ => satisfy p

/-- Whether `r` accepts what comes next; if so it is taken. -/
def accepts [Alternative m] (r : m α) : m Bool := Option.isSome <$> optional r

/-- The values that `next` gives until it gives none, in at most `rounds` rounds. -/
def upTo [Monad m] (rounds : Nat) (next : m (Option α)) : m (List α) :=
  match rounds with
  | 0 => return []
  | n + 1 => do
    match ← next with
    | none => return []
    | some a => return a :: (← upTo n next)

/-- As many values of `r` as there are. -/
def many (r : Reader α) : Reader (List α) := fun text => upTo text.length (optional r) text

/-- Values of `r` with a separator between each two, at least one. -/
def sepBy1 (r : Reader α) (separator : Reader β) : Reader (List α) := do
  let first ← r
  let others ← many (do let _ ← separator; r)
  return first :: others

end Reader

end Text

end CallDescriptor
