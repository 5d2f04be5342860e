import CallDescriptor.Settings
/-!
# The command line

A command line holds one descriptor and any number of options, in any order.
An option with a value takes it from the same argument or from the next one,
and what the next argument gave is looked at only when another option, the
descriptor or the end is met; `Scan.pending` keeps it till then. So a fault in
a value shows later than an argument that cannot be understood at all.
`CommandLine.parse` reads the arguments from left to right and stops at the
first fault or request.
-/

namespace CallDescriptor

/-- What a command line asks for. -/
structure Arguments where
  descriptor : String
  config : Option String := none
  padding : Option Padding := none
  validation : Option Validation := none
  format : Option ReportFormat := none
  /-- How often the log level is to be raised. -/
  verbose : Nat := 0
  deriving DecidableEq, Repr

/-- Why reading a command line stopped. -/
inductive Stop where
  /-- There is no descriptor. -/
  | missingDescriptor
  /-- An unknown option or a second descriptor. -/
  | unknownArgument
  /-- An option without its value, or with a value that is none of its
  values. -/
  | invalidValue
  /-- A name that the vocabulary of the option does not have. -/
  | unknownName
  /-- An option with one value given twice. -/
  | conflict
  /-- A value for an option that takes none. -/
  | unwantedValue
  /-- Help is asked for. -/
  | help
  /-- The version is asked for. -/
  | version
  deriving DecidableEq, Repr

namespace CommandLine

/-- An option with a value. -/
inductive ValueOption where
  | config
  | padding
  | validation
  | format
  deriving DecidableEq, Repr

/-- An option without a value. -/
inductive Flag where
  | verbose
  | help
  | version
  deriving DecidableEq, Repr

/-- The option with a value under a long name. -/
def longOption? (name : List Char) : Option ValueOption :=
  if name = "config".toList then some .config
  else if name = "padding".toList then some .padding
  else if name = "validation".toList then some .validation
  else if name = "format".toList then some .format
  else none

/-- The option without a value under a long name. -/
def longFlag? (name : List Char) : Option Flag :=
  if name = "verbose".toList then some .verbose
  else if name = "help".toList then some .help
  else if name = "version".toList then some .version
  else none

/-- The option with a value under a letter. -/
def shortOption? (letter : Char) : Option ValueOption :=
  if letter = 'c' then some .config
  else if letter = 'f' then some .format
  else none

/-- The option without a value under a letter. -/
def shortFlag? (letter : Char) : Option Flag :=
  if letter = 'v' then some .verbose
  else if letter = 'h' then some .help
  else if letter = 'V' then some .version
  else none

/-- The greatest number of raises that is counted. -/
def maxVerbose : Nat := 255

/-- What has been read of a command line. -/
structure Scan where
  descriptor : Option String := none
  config : Option String := none
  padding : Option Padding := none
  validation : Option Validation := none
  format : Option ReportFormat := none
  verbose : Nat := 0
  /-- An option that waits for its value, or for a look at it. -/
  pending : Option (ValueOption × Option String) := none
  /-- Whether options have ended. -/
  optionsEnded : Bool := false
  deriving DecidableEq, Repr

namespace Scan

/-- Gives an option its value. That the option has one already is found out
before the value is looked at. -/
def assign (s : Scan) (option : ValueOption) (v : String) : Except Stop Scan :=
  match option with
  | .config =>
    if s.config.isSome then .error .conflict
    else if v = "" then .error .invalidValue
    else .ok { s with config := some v }
  | .padding =>
    if s.padding.isSome then .error .conflict
    else match Named.ofNameAnyCase? v with
      | some p => .ok { s with padding := some p }
      | none => .error .unknownName
  | .validation =>
    if s.validation.isSome then .error .conflict
    else match Named.ofNameAnyCase? v with
      | some p => .ok { s with validation := some p }
      | none => .error .unknownName
  | .format =>
    if s.format.isSome then .error .conflict
    else match Named.ofName? v with
      | some f => .ok { s with format := some f }
      | none => .error .invalidValue

/-- Settles the option that is pending. -/
def settle (s : Scan) : Except Stop Scan :=
  match s.pending with
  | none => .ok s
  | some (_, none) => .error .invalidValue
  | some (option, some v) => assign { s with pending := none } option v

/-- An option without a value. -/
def flag (s : Scan) (f : Flag) : Except Stop Scan := do
  let s ← s.settle
  match f with
  | .verbose => return { s with verbose := min (s.verbose + 1) maxVerbose }
  | .help => .error .help
  | .version => .error .version

/-- An option with its value in the same argument. -/
def attached (s : Scan) (option : ValueOption) (v : List Char) : Except Stop Scan := do
  let s ← s.settle
  s.assign option (String.ofList v)

/-- An option whose value is to come. -/
def await (s : Scan) (option : ValueOption) : Except Stop Scan := do
  let s ← s.settle
  return { s with pending := some (option, none) }

/-- An argument that is no option: the value of the option that waits for
one, or else the descriptor. -/
def plain (s : Scan) (arg : String) : Except Stop Scan :=
  match s.pending, s.optionsEnded with
  | some (option, none), false => .ok { s with pending := some (option, some arg) }
  | _, _ =>
    if s.descriptor.isSome then .error .unknownArgument
    else do
      let s ← s.settle
      return { s with descriptor := some arg }

/-- An argument after two hyphens: a name, and perhaps a value after the first
equals sign. -/
def long (s : Scan) (text : List Char) : Except Stop Scan :=
  let name := text.takeWhile (· != '=')
  match longOption? name, longFlag? name, text.dropWhile (· != '=') with
  | some option, _, _ :: v => s.attached option v
  | some option, _, [] => s.await option
  | none, some _, _ :: _ => .error .unwantedValue
  | none, some f, [] => s.flag f
  | none, none, _ => .error .unknownArgument

/-- Letters after one hyphen. The first letter of an option with a value takes
the rest as its value, less an equals sign in front. -/
def short (s : Scan) : List Char → Except Stop Scan
  | [] => .ok s
  | letter :: rest =>
    match shortOption? letter, shortFlag? letter, rest with
    | some option, _, [] => s.await option
    | some option, _, '=' :: v => s.attached option v
    | some option, _, v => s.attached option v
    | none, some f, _ => do
      let s ← s.flag f
      s.short rest
    | none, none, _ => .error .unknownArgument

/-- One argument. -/
def step (s : Scan) (arg : String) : Except Stop Scan :=
  if s.optionsEnded then s.plain arg
  else match arg.toList with
    | ['-', '-'] => .ok { s with optionsEnded := true }
    | '-' :: '-' :: text => s.long text
    | '-' :: letter :: rest => s.short (letter :: rest)
    | _ => s.plain arg

/-- What the command line asks for, at its end. -/
def finish (s : Scan) : Except Stop Arguments := do
  let s ← s.settle
  match s.descriptor with
  | none => .error .missingDescriptor
  | some descriptor =>
    return {
      descriptor, config := s.config, padding := s.padding, validation := s.validation,
      format := s.format, verbose := s.verbose }

end Scan

/-- What a command line asks for. -/
def parse (args : List String) : Except Stop Arguments := do
  let s ← args.foldlM Scan.step {}
  s.finish

end CommandLine

namespace Arguments

/-- Settings with those of the command line in place of their own. -/
def override (a : Arguments) (s : Settings) : Settings :=
  { s with
    padding := a.padding.getD s.padding
    validation := a.validation.getD s.validation
    format := a.format.getD s.format }

end Arguments

end CallDescriptor
