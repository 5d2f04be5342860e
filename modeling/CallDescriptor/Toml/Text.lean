import CallDescriptor.Text.Digits
import CallDescriptor.Text.Reader
/-!
# TOML text

White space, comments, line ends, strings and keys. Of the control characters
only the tab may stand in a comment or a string. A string over several lines
ends at the first run of three or more quotes; of such a run up to two quotes
belong to the string.
-/

namespace CallDescriptor

namespace Toml

open Text Text.Reader

/-! ## Between the tokens -/

/-- Tabs and visible characters: what may stand in a comment. -/
def isPrintable (c : Char) : Bool := c == '\t' || (' '.toNat ≤ c.toNat && c != '\x7f')

/-- White space within a line. -/
def blank : Reader Unit := do
  let _ ← takeWhile fun c => c == ' ' || c == '\t'

/-- A line end. -/
def newline : Reader Unit := word "\n" <|> word "\r\n"

/-- A comment, up to its line end. -/
def comment : Reader Unit := do
  char '#'
  let _ ← takeWhile isPrintable

/-- White space, comments and line ends. -/
def blankLines : Reader Unit := do
  blank
  let _ ← many (do
    let _ ← optional comment
    newline
    blank)

/-! ## Strings -/

/-- An escape sequence. -/
def escaped : Reader Char := do
  char '\\'
  match ← satisfy fun _ => true with
  | 'b' => return '\x08'
  | 't' => return '\t'
  | 'n' => return '\n'
  | 'f' => return '\x0c'
  | 'r' => return '\r'
  | '"' => return '"'
  | '\\' => return '\\'
  | 'u' => StateT.lift (charOfHex? (← count 4 isHexDigit))
  | 'U' => StateT.lift (charOfHex? (← count 8 isHexDigit))
  | _ => failure

/-- A character of a basic string that stands for itself. -/
def plainBasic : Reader Char := satisfy fun c => isPrintable c && c != '"' && c != '\\'

/-- A string in double quotes. -/
def basicString : Reader String := do
  char '"'
  let cs ← many (plainBasic <|> escaped)
  char '"'
  return String.ofList cs

/-- A string in single quotes. -/
def literalString : Reader String := do
  char '\''
  let cs ← takeWhile fun c => isPrintable c && c != '\''
  char '\''
  return String.ofList cs

/-- A run of one or two quotes, which does not end a string over lines. -/
def shortRun (quote : Char) : Reader (List Char) := do
  let run ← takeWhile1 (· == quote)
  if run.length ≤ 2 then return run else failure

/-- The run of quotes that ends a string over lines, less the three of the
end. -/
def closingRun (quote : Char) : Reader (List Char) := do
  let run ← takeWhile1 (· == quote)
  if 3 ≤ run.length ∧ run.length ≤ 5 then return run.drop 3 else failure

/-- A backslash at the end of a line, with the white space up to the next
character that is none. -/
def continuation : Reader (List Char) := do
  char '\\'
  blank
  newline
  blank
  let _ ← many (do newline; blank)
  return []

/-- A line end inside a string. -/
def lineFeed : Reader (List Char) := do
  newline
  return ['\n']

/-- A string over lines between runs of `quote`, whose other parts `part`
reads. A line end right after the opening quotes does not count. -/
def multilineString (quote : Char) (part : Reader (List Char)) : Reader String := do
  word (String.ofList [quote, quote, quote])
  let _ ← optional newline
  let parts ← many (lineFeed <|> shortRun quote <|> part)
  let last ← closingRun quote
  return String.ofList (parts.flatten ++ last)

/-- A string over lines with escape sequences. -/
def multilineBasic : Reader String :=
  multilineString '"' ((fun c => [c]) <$> plainBasic <|> continuation <|>
    (fun c => [c]) <$> escaped)

/-- A string over lines as it stands. -/
def multilineLiteral : Reader String :=
  multilineString '\'' (takeWhile1 fun c => isPrintable c && c != '\'')

/-- A string. -/
def anyString : Reader String :=
  multilineBasic <|> basicString <|> multilineLiteral <|> literalString

/-! ## Keys -/

/-- One part of a key. -/
def simpleKey : Reader String :=
  basicString <|> literalString <|>
    String.ofList <$> takeWhile1 fun c => c.isAlphanum || c == '_' || c == '-'

/-- The number of parts a key has to stay below. -/
def maxKeyParts : Nat := 100

/-- A key of one or more parts, with the white space around them. -/
def key : Reader (List String) := do
  let parts ← sepBy1 (do
    blank
    let part ← simpleKey
    blank
    return part) (char '.')
  if parts.length < maxKeyParts then return parts else failure

end Toml

end CallDescriptor
