import CallDescriptor.Text.Pattern
/-!
# Named sets of characters

The sets that a pattern can name: by a letter after a backslash, by a word in
`[:` and `:]`, and by a Unicode property. Of each only the ASCII characters are
listed, which is all that a search in ASCII text can show.
-/

namespace CallDescriptor

namespace Text

namespace CharSet

/-- The characters of a string. -/
def ofString (s : String) : CharSet := ranges (s.toList.map fun c => (c, c))

/-- The decimal digits. -/
def digit : CharSet := ranges [('0', '9')]

/-- The hexadecimal digits. -/
def hexDigit : CharSet := ranges [('0', '9'), ('A', 'F'), ('a', 'f')]

/-- White space. -/
def space : CharSet := ranges [('\t', '\r'), (' ', ' ')]

/-- The capital letters. -/
def upper : CharSet := ranges [('A', 'Z')]

/-- The small letters. -/
def lower : CharSet := ranges [('a', 'z')]

/-- The letters. -/
def letter : CharSet := either upper lower

/-- The characters of words. -/
def word : CharSet := either letter (either digit (single '_'))

/-- The control characters. -/
def control : CharSet := ranges [('\x00', '\x1f'), ('\x7f', '\x7f')]

/-- The ASCII characters. -/
def ascii : CharSet := ranges [('\x00', '\x7f')]

/-- The set of a letter after a backslash; its capital names the rest. -/
def ofLetter? : Char → Option CharSet
  | 'd' => some digit
  | 's' => some space
  | 'w' => some word
  | 'D' => some (inverse digit)
  | 'S' => some (inverse space)
  | 'W' => some (inverse word)
  | _ => Option.none

/-- The set of a word in `[:` and `:]`. -/
def ofWord? : String → Option CharSet
  | "alnum" => some (either letter digit)
  | "alpha" => some letter
  | "ascii" => some ascii
  | "blank" => some (ofString "\t ")
  | "cntrl" => some control
  | "digit" => some digit
  | "graph" => some (ranges [('!', '~')])
  | "lower" => some lower
  | "print" => some (ranges [(' ', '~')])
  | "punct" => some (ranges [('!', '/'), (':', '@'), ('[', '\x60'), ('\x7b', '~')])
  | "space" => some space
  | "upper" => some upper
  | "word" => some word
  | "xdigit" => some hexDigit
  | _ => Option.none

/-- The name of a property without what makes no difference: case, spaces,
hyphens, underscores, and `is` in front. -/
def plainName (name : String) : String :=
  let letters := (name.toList.filter fun c => !(" -_".toList.contains c)).map Char.toLower
  match letters with
  | 'i' :: 's' :: c :: rest => String.ofList (c :: rest)
  | _ => String.ofList letters

/-- Properties with the names they go by. Scripts that have no ASCII character
come last, all together. -/
def properties : List (List String × CharSet) :=
  [(["any"], all),
   (["ascii"], ascii),
   (["assigned"], ascii),
   (["l", "letter", "lc", "casedletter", "alphabetic", "alpha", "cased", "latin", "latn"], letter),
   (["lu", "uppercaseletter", "uppercase", "upper"], upper),
   (["ll", "lowercaseletter", "lowercase", "lower"], lower),
   (["n", "number", "nd", "decimalnumber", "digit"], digit),
   (["hexdigit", "hex", "asciihexdigit", "ahex"], hexDigit),
   (["p", "punctuation", "punct"], ofString "!\"#%&'()*,-./:;?@[\\]_\x7b\x7d"),
   (["pc", "connectorpunctuation"], single '_'),
   (["pd", "dashpunctuation"], single '-'),
   (["ps", "openpunctuation"], ofString "([\x7b"),
   (["pe", "closepunctuation"], ofString ")]\x7d"),
   (["po", "otherpunctuation"], ofString "!\"#%&'*,./:;?@\\"),
   (["s", "symbol"], ofString "$+<=>^\x60|~"),
   (["sm", "mathsymbol"], ofString "+<=>|~"),
   (["sc", "currencysymbol"], single '$'),
   (["sk", "modifiersymbol"], ofString "^\x60"),
   (["z", "separator", "zs", "spaceseparator"], single ' '),
   (["whitespace", "wspace", "space"], space),
   (["c", "other", "cc", "control", "cntrl"], control),
   (["common", "zyyy"], both ascii (inverse letter)),
   (["lt", "titlecaseletter", "lm", "modifierletter", "lo", "otherletter", "m", "mark",
     "combiningmark", "mn", "nonspacingmark", "mc", "spacingmark", "me", "enclosingmark", "nl",
     "letternumber", "no", "othernumber", "pi", "initialpunctuation", "pf", "finalpunctuation",
     "so", "othersymbol", "zl", "lineseparator", "zp", "paragraphseparator", "cf", "format", "co",
     "privateuse", "cn", "unassigned"], none),
   (["arabic", "arab", "armenian", "armn", "cyrillic", "cyrl", "devanagari", "deva", "georgian",
     "geor", "greek", "grek", "han", "hani", "hangul", "hang", "hebrew", "hebr", "hiragana",
     "hira", "katakana", "kana", "thai"], none)]

/-- The set of a property. -/
def ofProperty? (name : String) : Option CharSet :=
  (properties.find? fun p => p.1.contains (plainName name)).map (·.2)

end CharSet

end Text

end CallDescriptor
