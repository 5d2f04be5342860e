import CallDescriptor.Run
/-!
# The program

Hands the arguments, the settings file they name and the log specification to
`Run.run`, and writes what it gives: the report to standard output, log lines
and the reason of a failure to standard error.
-/

namespace CallDescriptor

/-- The state of the file at a path. -/
def readState (path : String) : IO FileState := do
  try
    return .contents (← IO.FS.readBinFile path)
  catch
    | .noFileOrDirectory .. => return .missing
    | .inappropriateType .. => return .directory
    | e => return .unreadable (toString e)

/-- The words for a command line that is refused. -/
def usageMessage : Stop → String
  | .missingDescriptor => "error: a descriptor is required"
  | .unknownArgument => "error: unexpected argument"
  | .invalidValue => "error: missing or invalid value for an option"
  | .unknownName => "error: unknown name for an option"
  | .conflict => "error: an option is given twice"
  | .unwantedValue => "error: a value for an option that takes none"
  | .help | .version => ""

/-- The words for a run that failed. -/
def failureMessage : Run.Failure → String
  | .usage fault => usageMessage fault
  | .run e => e.report

end CallDescriptor

open CallDescriptor in
def main (args : List String) : IO UInt32 := do
  let state ← match CommandLine.parse args with
    | .ok { config := some path, .. } => readState path
    | _ => pure .missing
  let spec ← IO.getEnv "RUST_LOG"
  let outcome := Run.run (fun _ => state) spec args
  for line in outcome.logs do
    IO.eprintln line
  IO.print outcome.stdout
  if let some failure := outcome.failure then
    IO.eprintln (failureMessage failure)
  return outcome.exitCode.toUInt32
