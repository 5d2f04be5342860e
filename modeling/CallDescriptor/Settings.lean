import CallDescriptor.Log.Level
import CallDescriptor.Options
import CallDescriptor.Report
/-!
# Settings

What can be set for a run: how descriptors are decoded, in which form the
report is given and how much is logged.
-/

namespace CallDescriptor

/-- The settings of a run. -/
structure Settings where
  padding : Padding := .trailing
  validation : Validation := .permissive
  format : ReportFormat := .text
  level : Level := .warn
  deriving DecidableEq, Repr, Inhabited

namespace Settings

/-- The part of the settings that decoding looks at. -/
def options (s : Settings) : Options := { padding := s.padding, validation := s.validation }

end Settings

end CallDescriptor
