import CallDescriptor.Text.Glyphless
/-!
# Quotations

Messages quote the characters and strings they complain about. A quotation
writes its own quote mark and the backslash after a backslash, the usual
white space by letter, and whatever a reader cannot see by code point, so no
two texts share a quotation. The other quote mark stays bare: a character is
quoted in single marks, a string in double marks, and `escape` is the rule
both are read off.
-/

namespace CallDescriptor

namespace Text

/-- `c` as it stands between two marks `quote`. -/
def escape (quote c : Char) : List Char :=
  if c = '\x00' then ['\\', '0']
  else if c = '\t' then ['\\', 't']
  else if c = '\n' then ['\\', 'n']
  else if c = '\r' then ['\\', 'r']
  else if c = quote ∨ c = '\\' then ['\\', c]
  else if isGlyphless c then
    ['\\', 'u', '\x7b'] ++ Nat.toDigits 16 c.toNat ++ ['\x7d']
  else [c]

/-- A text between two marks `quote`. -/
def quoted (quote : Char) (text : List Char) : String :=
  String.ofList (quote :: text.flatMap (escape quote) ++ [quote])

/-- A character in single quotes. -/
def quoteChar (c : Char) : String := quoted '\'' [c]

/-- A string in double quotes. -/
def quoteString (s : String) : String := quoted '"' s.toList

end Text

end CallDescriptor
