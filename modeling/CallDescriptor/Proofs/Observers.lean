import CallDescriptor.Proofs.CommandLine.Raises
import CallDescriptor.Proofs.Log
import CallDescriptor.Run
/-!
# Logging observes

How much is logged is settled by three things, the raises of the command
line, the level of the settings and the log specification, and the result
of a run depends on none of them (`run_of_settled` is the equation both
parts are read off). The lines that are logged grow with the raises and
with nothing else changed lose none of those there were.
-/

namespace CallDescriptor

namespace Run

variable {files : String → FileState} {args : List String} {a a' : Arguments} {s s' : Settings}

/-- A run whose arguments and settings are known is its report. -/
theorem run_of_settled (hargs : CommandLine.parse args = .ok a) (hset : settings files a = .ok s)
    (spec : Option String) : run files spec args = report spec a s := by
  unfold run
  rw [hargs]
  simp only [hset]

/-- What a run logs is what its filter leaves of its records. -/
theorem logs_report (spec : Option String) (a : Arguments) (s : Settings) :
    (report spec a s).logs = logLines spec a s (decodeTraced s.options a.descriptor).events := by
  unfold report
  simp only
  split
  · rfl
  · rfl

/-- **Apart from its lines a report is one of descriptor, options and
format.** -/
theorem report_congr (spec spec' : Option String) (hdescriptor : a.descriptor = a'.descriptor)
    (hoptions : s.options = s'.options) (hformat : s.format = s'.format) :
    (report spec a s).exitCode = (report spec' a' s').exitCode ∧
      (report spec a s).stdout = (report spec' a' s').stdout ∧
      (report spec a s).failure = (report spec' a' s').failure := by
  unfold report
  simp only
  rw [hdescriptor, hoptions, hformat]
  cases (decodeTraced s'.options a'.descriptor).outcome with
  | error e => exact ⟨rfl, rfl, rfl⟩
  | ok c => exact ⟨rfl, rfl, rfl⟩

/-- **More raises only add lines**, where the settings and the log
specification are the same. -/
theorem logs_report_sublist (spec : Option String) (s : Settings)
    (hdescriptor : a.descriptor = a'.descriptor) (hverbose : a.verbose ≤ a'.verbose) :
    ((report spec a s).logs).Sublist (report spec a' s).logs := by
  rw [logs_report, logs_report, hdescriptor]
  exact Filter.lines_sublist (Level.rank_raise_mono s.level hverbose) spec _

/-- **Five raises log everything**, where no specification says otherwise. -/
theorem logs_report_of_five_le (s : Settings) (hverbose : 5 ≤ a.verbose) :
    (report none a s).logs =
      (LogRecord.ofSettings s ::
        (decodeTraced s.options a.descriptor).events.map LogRecord.ofEvent).map LogRecord.line := by
  rw [logs_report, logLines, baseLevel, Level.raise_of_five_le _ hverbose, Filter.lines_of_trace]

end Run

open CommandLine in
/-- **Logging settings are pure observers.** Two runs with the same
descriptor and the same settings but for the log level end in the same
way, with the same text and the same failure if there is one, whatever
their raises, their levels and their log specifications are. If the
levels and the specifications are the same too, more raises keep all
lines in order, however many raises there are; and where nothing is
specified five of them log every record of the run, from any level. -/
theorem run_result_independent_of_logging {files files' : String → FileState}
    {spec spec' : Option String} {args args' : List String} {a a' : Arguments} {s s' : Settings}
    (hargs : parse args = .ok a) (hargs' : parse args' = .ok a')
    (hset : Run.settings files a = .ok s) (hset' : Run.settings files' a' = .ok s')
    (hdescriptor : a.descriptor = a'.descriptor) (hpadding : s.padding = s'.padding)
    (hvalidation : s.validation = s'.validation) (hformat : s.format = s'.format) :
    ((Run.run files spec args).exitCode = (Run.run files' spec' args').exitCode ∧
      (Run.run files spec args).stdout = (Run.run files' spec' args').stdout ∧
      (Run.run files spec args).failure = (Run.run files' spec' args').failure) ∧
    (s.level = s'.level → spec = spec' → raises args ≤ raises args' →
      ((Run.run files spec args).logs).Sublist (Run.run files' spec' args').logs) ∧
    (5 ≤ raises args → (Run.run files none args).logs =
      (LogRecord.ofSettings s ::
        (decodeTraced s.options a.descriptor).events.map LogRecord.ofEvent).map
          LogRecord.line) := by
  have hoptions : s.options = s'.options := by
    rw [Settings.options, Settings.options, hpadding, hvalidation]
  have hraises := verbose_of_parse hargs
  have hraises' := verbose_of_parse hargs'
  rw [Run.run_of_settled hargs hset, Run.run_of_settled hargs' hset',
    Run.run_of_settled hargs hset]
  refine ⟨Run.report_congr spec spec' hdescriptor hoptions hformat, fun hlevel hspec hle => ?_,
    fun hfive => ?_⟩
  · have hsame : s = s' := (Settings.mk.injEq ..).mpr ⟨hpadding, hvalidation, hformat, hlevel⟩
    subst hsame hspec
    exact Run.logs_report_sublist spec s hdescriptor (by omega)
  · refine Run.logs_report_of_five_le s ?_
    rw [hraises, maxVerbose]
    omega

/-- One raise and six, over a file that turns the log off. -/
theorem run_result_independent_of_logging_from_off :
    let raw := "0x0100000000000000000305ff0102ffffffffffffffffffffffffffffffffffff"
    let files : String → FileState := fun _ => .contents "logger=[\"off\"]".toUTF8
    let few := ["-vc", "decoder.toml", raw]
    let many := [raw, "-vvvvv", "--config=decoder.toml", "--verbose"]
    let a : Arguments := { descriptor := raw, config := some "decoder.toml", verbose := 1 }
    let a' : Arguments := { descriptor := raw, config := some "decoder.toml", verbose := 6 }
    let s : Settings := { level := .off }
    (CommandLine.parse few = .ok a ∧ CommandLine.parse many = .ok a' ∧
      Run.settings files a = .ok s ∧ Run.settings files a' = .ok s) ∧
    (Run.run files (some "taskcfg_core=trace") few).stdout = (Run.run files none many).stdout ∧
    ((Run.run files none few).logs).Sublist (Run.run files none many).logs ∧
    (Run.run files none many).logs =
      (LogRecord.ofSettings s ::
        (decodeTraced s.options raw).events.map LogRecord.ofEvent).map LogRecord.line := by
  intro raw files few many a a' s
  have hargs : CommandLine.parse few = .ok a := by decide +kernel
  have hargs' : CommandLine.parse many = .ok a' := by decide +kernel
  have hset : Run.settings files a = .ok s := by decide +kernel
  have hset' : Run.settings files a' = .ok s := by decide +kernel
  have hfew : CommandLine.raises few = 1 := by decide +kernel
  have hmany : CommandLine.raises many = 6 := by decide +kernel
  have hspec := @run_result_independent_of_logging files files (some "taskcfg_core=trace") none
    few many a a' s s hargs hargs' hset hset' rfl rfl rfl rfl
  have hlines := @run_result_independent_of_logging files files none none few many a a' s s
    hargs hargs' hset hset' rfl rfl rfl rfl
  have hall := @run_result_independent_of_logging files files none none many few a' a s s
    hargs' hargs hset' hset rfl rfl rfl rfl
  exact ⟨⟨hargs, hargs', hset, hset'⟩, hspec.1.2.1, hlines.2.1 rfl rfl (by omega),
    hall.2.2 (by omega)⟩

end CallDescriptor
