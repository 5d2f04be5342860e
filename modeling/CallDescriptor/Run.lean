import CallDescriptor.CommandLine
import CallDescriptor.Decode
import CallDescriptor.Log.Record
import CallDescriptor.Settings.Reading
/-!
# A run of the program

`Run.run` says what a run does, given the arguments, the state of each file
and the log specification: it either writes the whole report and succeeds, or
writes none and gives one reason. The stages come in a fixed order, the
command line, the settings file, decoding, and the first that fails ends the
run. Logging starts once the settings are known.
-/

namespace CallDescriptor

/-- What opening and reading a file gives. -/
inductive FileState where
  | missing
  | directory
  /-- The file cannot be read for another reason. -/
  | unreadable (reason : String)
  | contents (bytes : ByteArray)

/-- Why a file gives no text. -/
inductive FileError where
  | missing
  | directory
  | unreadable (reason : String)
  /-- The bytes are no UTF-8. -/
  | notText
  deriving DecidableEq, Repr

namespace FileError

/-- The words for a reader. -/
def message : FileError → String
  | missing => "No such file or directory (os error 2)"
  | directory => "Is a directory (os error 21)"
  | unreadable reason => reason
  | notText => "stream did not contain valid UTF-8"

end FileError

/-- The text of a file. -/
def FileState.text : FileState → Except FileError String
  | missing => .error .missing
  | directory => .error .directory
  | unreadable reason => .error (.unreadable reason)
  | contents bytes =>
    match String.fromUTF8? bytes with
    | some text => .ok text
    | none => .error .notText

/-- Why a run failed. -/
inductive RunError where
  /-- The settings file gives no text. -/
  | readConfig (path : String) (cause : FileError)
  /-- The settings file gives no settings. -/
  | parseConfig (path : String) (cause : SettingsError)
  /-- The descriptor does not decode. -/
  | decode (descriptor : String) (cause : DecodeError)
  deriving DecidableEq, Repr

namespace RunError

/-- What was being done. -/
def context : RunError → String
  | readConfig path _ => "read config " ++ path
  | parseConfig path _ => "parse config " ++ path
  | decode descriptor _ => "decode " ++ descriptor

/-- Why it failed, where the words for it are the program's own. -/
def cause? : RunError → Option String
  | readConfig _ cause => some cause.message
  | parseConfig _ _ => none
  | decode _ cause => some cause.message

/-- The report on the failure. -/
def report (e : RunError) : String :=
  "Error: " ++ e.context ++
    match e.cause? with
    | some cause => "\n\nCaused by:\n    " ++ cause
    | none => ""

end RunError

namespace Run

/-- Why a run wrote no report. -/
inductive Failure where
  /-- The command line is refused. -/
  | usage (fault : Stop)
  | run (e : RunError)
  deriving DecidableEq, Repr

/-- What a run leaves behind. -/
structure Outcome where
  exitCode : UInt8
  stdout : String := ""
  logs : List String := []
  failure : Option Failure := none
  deriving DecidableEq, Repr

/-- The settings of a run: those of the file, if one is named, under those of
the command line. -/
def settings (files : String → FileState) (a : Arguments) : Except RunError Settings :=
  match a.config with
  | none => .ok (a.override {})
  | some path =>
    match (files path).text with
    | .error e => .error (.readConfig path e)
    | .ok text =>
      match Settings.ofToml text with
      | .error e => .error (.parseConfig path e)
      | .ok s => .ok (a.override s)

/-- The log level of a run before its log specification is looked at. -/
def baseLevel (a : Arguments) (s : Settings) : Level := s.level.raise a.verbose

/-- The lines a run logs. -/
def logLines (spec : Option String) (a : Arguments) (s : Settings) (events : List Event) :
    List String :=
  (Filter.ofSpec (baseLevel a s) spec).lines
    (LogRecord.ofSettings s :: events.map LogRecord.ofEvent)

/-- A run whose arguments and settings are known. -/
def report (spec : Option String) (a : Arguments) (s : Settings) : Outcome :=
  let decoded := decodeTraced s.options a.descriptor
  let logs := logLines spec a s decoded.events
  match decoded.outcome with
  | .error e => { exitCode := 1, logs, failure := some (.run (.decode a.descriptor e)) }
  | .ok c => { exitCode := 0, logs, stdout := CallDescriptor.report a.descriptor c s.format }

/-- The text that help shows. -/
def helpText : String := String.join (List.map (· ++ "\n") [
  "Decode a task executor action descriptor",
  "",
  "Usage: decoder [OPTIONS] <DESCRIPTOR>",
  "",
  "Arguments:",
  "  <DESCRIPTOR>  Descriptor, e.g. " ++
    "0x0100000000000000000203ffffffffffffffffffffffffffffffffffffffffff",
  "",
  "Options:",
  "  -c, --config <CONFIG>          TOML file with decoder settings",
  "      --padding <PADDING>        How filler bytes are removed from the stack-slot trailer " ++
    "[trailing, legacy]",
  "      --validation <VALIDATION>  Cross-field checks to enforce [permissive, slots, full]",
  "  -f, --format <FORMAT>          [possible values: text, yaml, json]",
  "  -v, --verbose...               Raise log verbosity, repeatable",
  "  -h, --help                     Print help",
  "  -V, --version                  Print version"])

/-- The text that the version shows. -/
def versionText : String := "decoder 0.1.0\n"

/-- A whole run. -/
def run (files : String → FileState) (spec : Option String) (args : List String) : Outcome :=
  match CommandLine.parse args with
  | .error .help => { exitCode := 0, stdout := helpText }
  | .error .version => { exitCode := 0, stdout := versionText }
  | .error fault => { exitCode := 2, failure := some (.usage fault) }
  | .ok a =>
    match settings files a with
    | .error e => { exitCode := 1, failure := some (.run e) }
    | .ok s => report spec a s

end Run

end CallDescriptor
