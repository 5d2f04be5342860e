import CallDescriptor.Proofs.Observers
/-!
# The first failing stage ends a run

A run reads its command line, then the settings file if one is named, and
then its descriptor, under what the command line sets and under the file
where it sets nothing. `Ending` says for each stage what is left behind when
it is the first to fail, and what is left when none does.
`run_ends_at_first_failing_stage` is the statement that a run ends in that
way and no other: so it is all or nothing, and a fault in a stage is
reported as it is, whatever would go wrong behind it.
-/

namespace CallDescriptor

open CommandLine

/-! ## The settings file -/

/-- **A file gives a text** just if its bytes are that text. -/
theorem FileState.text_eq_ok_iff {f : FileState} {text : String} :
    f.text = .ok text ↔ f = .contents text.toUTF8 := by
  have hbytes (bytes : ByteArray) : String.fromUTF8? bytes = some text ↔ bytes = text.toUTF8 := by
    unfold String.fromUTF8?
    split
    · rw [Option.some.injEq]
      constructor
      · rintro rfl
        rfl
      · rintro rfl
        rfl
    · next hinvalid =>
      constructor
      · exact nofun
      · rintro rfl
        exact absurd text.isValidUTF8 hinvalid
  cases f with
  | missing => exact ⟨nofun, nofun⟩
  | directory => exact ⟨nofun, nofun⟩
  | unreadable reason => exact ⟨nofun, nofun⟩
  | contents bytes =>
    rw [FileState.contents.injEq, ← hbytes bytes, FileState.text]
    cases String.fromUTF8? bytes with
    | none => exact ⟨nofun, nofun⟩
    | some t => rw [Except.ok.injEq, Option.some.injEq]

/-- What there is to override, by the path that is named. -/
inductive FileGives (files : String → FileState) :
    Option String → Except RunError Settings → Prop
  /-- Without a file it is the defaults. -/
  | unnamed : FileGives files none
      (.ok { padding := .trailing, validation := .permissive, format := .text, level := .warn })
  /-- A file without a text gives nothing. -/
  | unread {path : String} {cause : FileError} (hfile : (files path).text = .error cause) :
      FileGives files (some path) (.error (.readConfig path cause))
  /-- Neither does a text that no settings can be read from. -/
  | unparsed {path text : String} {cause : SettingsError}
      (hfile : files path = .contents text.toUTF8) (htoml : Settings.ofToml text = .error cause) :
      FileGives files (some path) (.error (.parseConfig path cause))
  /-- Any other gives the settings in it. -/
  | settings {path text : String} {s : Settings}
      (hfile : files path = .contents text.toUTF8) (htoml : Settings.ofToml text = .ok s) :
      FileGives files (some path) (.ok s)

variable {files : String → FileState} {spec : Option String} {args : List String}
variable {a : Arguments}

/-- What the file gives is overridden, and only if it gives settings. -/
theorem settings_eq_of_fileGives {x : Except RunError Settings}
    (h : FileGives files a.config x) : Run.settings files a = x.map a.override := by
  unfold Run.settings
  generalize a.config = path? at h
  cases h with
  | unnamed => rfl
  | unread hfile =>
    simp only [hfile]
    rfl
  | unparsed hfile htoml =>
    simp only [FileState.text_eq_ok_iff.2 hfile, htoml]
    rfl
  | settings hfile htoml =>
    simp only [FileState.text_eq_ok_iff.2 hfile, htoml]
    rfl

end CallDescriptor
