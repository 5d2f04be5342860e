import CallDescriptor.Proofs.CommandLine.Names
import CallDescriptor.Proofs.Settings.Apart
import CallDescriptor.Proofs.Toml.Strings
/-!
# Names in the file and on the command line

A setting is named by a string in the settings file and by the value of an
option on the command line. The two are read by different readers, and
`ReadAlike` says what they share: the file takes what the command line takes,
as far as it is written in the case of the name, and for the same value. What
is no such name but looks like one is taken by neither
(`names_mean_the_same`).
-/

namespace CallDescriptor

open CommandLine Record Settings Toml

/-! ## What is compared -/

/-- A text that is no name, in the file or on the command line. -/
structure RefusedByBoth (key : String) (option : ValueOption) (s : String) : Prop where
  file : ∀ text, Toml.ofString? text = some [(key, .string s)] →
    ∃ e, Settings.ofToml text = .error e
  line : ∀ r args, Giving r option s args → ∃ e, parse args = .error e

/-- The names of a setting mean the same under `key` in a settings file, where
they have to be `written` as they are, and behind `option`, which takes the
names that `named` tells. -/
structure ReadAlike {α : Type} [Named α] (key : String) (option : ValueOption)
    (setting : Settings → α) (argument : Arguments → Option α)
    (written : String → Prop) (named : String → α → Prop) : Prop where
  /-- Every string can be the value of the key. -/
  exists_text : ∀ s, ∃ text, Toml.ofString? text = some [(key, .string s)]
  /-- The command line takes the names and nothing else. -/
  line_iff : ∀ s r args, Giving r option s args → ∀ v,
    (∃ a, parse args = .ok a ∧ argument a = some v) ↔ named s v
  /-- The file takes what the command line takes, if it is written so. -/
  accepted_iff : ∀ s text r args, Toml.ofString? text = some [(key, .string s)] →
    Giving r option s args →
      ((∃ t, Settings.ofToml text = .ok t) ↔ (∃ a, parse args = .ok a) ∧ written s)
  /-- Then it gives the same value. -/
  same_value : ∀ s text r args t a, Toml.ofString? text = some [(key, .string s)] →
    Giving r option s args → Settings.ofToml text = .ok t → parse args = .ok a →
      argument a = some (setting t)
  /-- What only another way to fold case makes a name is refused. -/
  folded_refused : ∀ fold : Char → List Char, (∀ c, c.toNat < 128 → fold c = [c.toLower]) →
    ∀ s v, s.toList.flatMap fold = (Named.name v).toList → ¬ named s v →
      RefusedByBoth key option s
  /-- And so is what has white space at an end. -/
  untrimmed_refused : ∀ s, Text.trim s ≠ s → RefusedByBoth key option s

/-! ## The command line -/

/-- The command line reads the value of an option by `read`. -/
structure LineReads {α : Type} (option : ValueOption) (read : String → Option α)
    (argument : Arguments → Option α) : Prop where
  accepted : ∀ {s r args v}, Giving r option s args → read s = some v →
    ∃ a, parse args = .ok a ∧ argument a = some v
  refused : ∀ {s r args}, Giving r option s args → read s = none → ∃ e, parse args = .error e

/-- An option reads its value as it sets its argument. -/
theorem lineReads_of_readsBy {α : Type} {option : ValueOption} {read : String → Option α}
    {argument : Arguments → Option α} {set : Option α → Arguments → Arguments} {refusal : Stop}
    (h : ReadsBy option read set refusal) (hset : ∀ x a, argument (set x a) = x) :
    LineReads option read argument where
  accepted hargs hv := ⟨_, by rw [h.parse_eq hargs, hv], hset _ _⟩
  refused hargs hnone := ⟨_, by rw [h.parse_eq hargs, hnone]⟩

namespace LineReads

variable {α : Type} {option : ValueOption} {read : String → Option α}
variable {argument : Arguments → Option α} {s : String} {v : α}
variable {r : Request} {args : List String} {a : Arguments}

/-- What is accepted has been read. -/
theorem read_of_parse (h : LineReads option read argument) (hargs : Giving r option s args)
    (ha : parse args = .ok a) : ∃ v, read s = some v ∧ argument a = some v := by
  cases hread : read s with
  | none =>
    obtain ⟨e, he⟩ := h.refused hargs hread
    cases he.symm.trans ha
  | some v =>
    obtain ⟨a', ha', hv⟩ := h.accepted hargs hread
    obtain rfl := Except.ok.inj (ha'.symm.trans ha)
    exact ⟨v, rfl, hv⟩

theorem exists_parse_iff (h : LineReads option read argument) (hargs : Giving r option s args) :
    (∃ a, parse args = .ok a ∧ argument a = some v) ↔ read s = some v := by
  constructor
  · rintro ⟨a, ha, hv⟩
    obtain ⟨w, hw, hargument⟩ := h.read_of_parse hargs ha
    rwa [← hv, hargument]
  · intro hread
    exact h.accepted hargs hread

end LineReads

/-! ## The file -/

theorem read_eq_ok_iff {α : Type} [Named α] {s : String} {v : α} :
    Named.read s = .ok v ↔ Named.ofName? s = some v := by
  unfold Named.read
  cases Named.ofName? (α := α) s with
  | some w => rw [Except.ok.injEq, Option.some.injEq]
  | none => exact ⟨nofun, nofun⟩

/-- The file reads a string under `key` as a name. -/
structure FileReads {α : Type} [Named α] (key : String) (setting : Settings → α) : Prop where
  bareKey : BareKey key
  mem_checks : (key, check (Value.readName (Named.read (α := α)))) ∈ checks
  fills : ∀ {entries s}, FilledFrom s entries →
    Fills entries key (Value.readName Named.read) (setting {}) (setting s)

theorem fileReads_padding : FileReads "padding" Settings.padding where
  bareKey := ⟨by decide, List.all_eq_true.1 (by decide)⟩
  mem_checks := .head _
  fills := FilledFrom.padding

theorem fileReads_validation : FileReads "validation" Settings.validation where
  bareKey := ⟨by decide, List.all_eq_true.1 (by decide)⟩
  mem_checks := .tail _ (.head _)
  fills := FilledFrom.validation

theorem fileReads_format : FileReads "format" Settings.format where
  bareKey := ⟨by decide, List.all_eq_true.1 (by decide)⟩
  mem_checks := .tail _ (.tail _ (.head _))
  fills := FilledFrom.format

theorem FileReads.exists_ofToml_iff {α : Type} [Named α] {key s text : String} {v : α}
    {setting : Settings → α} (h : FileReads key setting)
    (htext : Toml.ofString? text = some [(key, .string s)]) :
    (∃ t, Settings.ofToml text = .ok t ∧ setting t = v) ↔ Named.ofName? s = some v := by
  rw [exists_congr fun t => and_congr_left fun _ => ofToml_eq_ok_iff htext,
    exists_ofTable_singleton_iff h.mem_checks h.fills]
  exact read_eq_ok_iff

/-! ## Both -/

/-- File and command line read one vocabulary, and the file reads what the
command line does where it is `written` as it has to be. -/
structure SameNames {α : Type} [Named α] (key : String) (option : ValueOption)
    (setting : Settings → α) (argument : Arguments → Option α) (read : String → Option α)
    (written : String → Prop) : Prop where
  file : FileReads key setting
  line : LineReads option read argument
  ofName?_iff : ∀ {s v}, Named.ofName? s = some v ↔ read s = some v ∧ written s
  anyCase : ∀ {s v}, read s = some v → Named.ofNameAnyCase? s = some v

namespace SameNames

variable {α : Type} [Named α] {key s text : String} {option : ValueOption} {v : α}
variable {setting : Settings → α} {argument : Arguments → Option α} {read : String → Option α}
variable {written : String → Prop} {r : Request} {args : List String} {a : Arguments}
variable (h : SameNames key option setting argument read written)
include h

/-- What the file takes has been read. -/
theorem read_of_ofToml {t : Settings} (htext : Toml.ofString? text = some [(key, .string s)])
    (ht : Settings.ofToml text = .ok t) : read s = some (setting t) ∧ written s :=
  h.ofName?_iff.1 ((h.file.exists_ofToml_iff htext).1 ⟨t, ht, rfl⟩)

theorem refusedByBoth (hnone : read s = none) : RefusedByBoth key option s := by
  refine ⟨fun text htext => ?_, fun r args hargs => h.line.refused hargs hnone⟩
  cases ht : Settings.ofToml text with
  | error e => exact ⟨e, rfl⟩
  | ok t =>
    rw [(h.read_of_ofToml htext ht).1] at hnone
    cases hnone

theorem accepted_iff (htext : Toml.ofString? text = some [(key, .string s)])
    (hargs : Giving r option s args) :
    (∃ t, Settings.ofToml text = .ok t) ↔ (∃ a, parse args = .ok a) ∧ written s := by
  constructor
  · rintro ⟨t, ht⟩
    obtain ⟨hread, hwritten⟩ := h.read_of_ofToml htext ht
    obtain ⟨a, ha, -⟩ := h.line.accepted hargs hread
    exact ⟨⟨a, ha⟩, hwritten⟩
  · rintro ⟨⟨a, ha⟩, hwritten⟩
    obtain ⟨v, hread, -⟩ := h.line.read_of_parse hargs ha
    have hname := h.ofName?_iff.2 ⟨hread, hwritten⟩
    obtain ⟨t, ht, -⟩ := (h.file.exists_ofToml_iff htext).2 hname
    exact ⟨t, ht⟩

theorem argument_eq {t : Settings} (htext : Toml.ofString? text = some [(key, .string s)])
    (hargs : Giving r option s args) (ht : Settings.ofToml text = .ok t)
    (ha : parse args = .ok a) : argument a = some (setting t) := by
  obtain ⟨v, hread, hargument⟩ := h.line.read_of_parse hargs ha
  rw [hargument, ← hread]
  exact (h.read_of_ofToml htext ht).1

/-- **Both readers agree**, and neither takes what is no name of its own. -/
theorem readAlike [Named.Lawful α] {named : String → α → Prop}
    (hnamed : ∀ s v, read s = some v ↔ named s v) :
    ReadAlike key option setting argument written named where
  exists_text s := ⟨stringEntry key s, ofString?_stringEntry h.file.bareKey s⟩
  line_iff s r args hargs v := (h.line.exists_parse_iff hargs).trans (hnamed s v)
  accepted_iff s text r args htext hargs := h.accepted_iff htext hargs
  same_value s text r args t a htext hargs ht ha := h.argument_eq htext hargs ht ha
  folded_refused fold hfold s v hsame hnot := by
    refine h.refusedByBoth ?_
    by_contra hsome
    obtain ⟨w, hw⟩ := Option.ne_none_iff_exists'.1 hsome
    -- what is read is in ASCII, and there the two foldings are one
    have hfold' : ∀ c, Text.isAscii c = true → fold c = [c.toLower] := fun c hc =>
      hfold c (of_decide_eq_true hc)
    obtain rfl := Named.eq_of_flatMap_fold hfold' hsame (h.anyCase hw)
    exact hnot ((hnamed s w).1 hw)
  untrimmed_refused s htrim := by
    refine h.refusedByBoth ?_
    by_contra hsome
    obtain ⟨w, hw⟩ := Option.ne_none_iff_exists'.1 hsome
    exact htrim (Named.trim_eq_self (h.anyCase hw))

end SameNames

/-- Behind an option that takes names in any case, the file asks for lower
case. -/
theorem sameNames_of_anyCase {α : Type} [Named α] [Named.Lawful α] {key : String}
    {option : ValueOption} {setting : Settings → α} {argument : Arguments → Option α}
    (hfile : FileReads key setting) (hline : LineReads option Named.ofNameAnyCase? argument) :
    SameNames key option setting argument Named.ofNameAnyCase?
      fun s => s.toList.map Char.toLower = s.toList where
  file := hfile
  line := hline
  ofName?_iff := Named.ofName?_eq_some_iff_anyCase
  anyCase h := h

theorem sameNames_format : SameNames "format" .format Settings.format Arguments.format
    Named.ofName? fun _ => True where
  file := fileReads_format
  line := lineReads_of_readsBy readsBy_format fun _ _ => rfl
  ofName?_iff := (and_iff_left trivial).symm
  anyCase := Named.ofNameAnyCase?_of_ofName?

/-- **Names mean the same in the file and on the command line.** For padding
and validation the file takes what the option takes and what is in lower case
already, for the format just what the option takes, each for the same value,
wherever the option stands among the other arguments. Two texts that differ in
the case of ASCII letters only have the same outcome behind the options for
padding and validation. Nothing that another way to fold case, or to cut off
white space, would make a name is taken by any of them. -/
theorem names_mean_the_same :
    ReadAlike "padding" .padding Settings.padding Arguments.padding
      (fun s => s.toList.map Char.toLower = s.toList)
      (fun s p => s.toList.map Char.toLower = (Named.name p).toList) ∧
    ReadAlike "validation" .validation Settings.validation Arguments.validation
      (fun s => s.toList.map Char.toLower = s.toList)
      (fun s v => s.toList.map Char.toLower = (Named.name v).toList) ∧
    ReadAlike "format" .format Settings.format Arguments.format
      (fun _ => True) (fun s f => s = Named.name f) ∧
    ∀ s t : String, s.toList.map Char.toLower = t.toList.map Char.toLower →
      (∀ r args args', Giving r .padding s args → Giving r .padding t args' →
        parse args = parse args') ∧
      ∀ r args args', Giving r .validation s args → Giving r .validation t args' →
        parse args = parse args' := by
  have hpadding : LineReads .padding Named.ofNameAnyCase? Arguments.padding :=
    lineReads_of_readsBy readsBy_padding fun _ _ => rfl
  have hvalidation : LineReads .validation Named.ofNameAnyCase? Arguments.validation :=
    lineReads_of_readsBy readsBy_validation fun _ _ => rfl
  refine ⟨?_, ?_, ?_, ?_⟩
  · exact (sameNames_of_anyCase fileReads_padding hpadding).readAlike
      fun s p => Named.ofNameAnyCase?_eq_some_iff
  · exact (sameNames_of_anyCase fileReads_validation hvalidation).readAlike
      fun s v => Named.ofNameAnyCase?_eq_some_iff
  · exact sameNames_format.readAlike fun s f => Named.ofName?_eq_some_iff
  · intro s t hsame
    refine ⟨fun r args args' hs ht => ?_, fun r args args' hs ht => ?_⟩
    · exact readsBy_padding.parse_congr hs ht (Named.ofNameAnyCase?_congr hsame)
    · exact readsBy_validation.parse_congr hs ht (Named.ofNameAnyCase?_congr hsame)

/-- A long s is no s, a capital letter is one on the command line only, and
white space is never passed over. -/
theorem names_mean_the_same_lookalikes :
    (∃ e, parse ["--validation=ſlots", "0x00"] = .error e) ∧
      (∃ e, Settings.ofToml "validation = \"ſlots\"" = .error e) ∧
      (∃ e, parse ["0x00", "--format= json"] = .error e) ∧
      parse ["--padding=Legacy", "0x00"] = parse ["0x00", "--padding=lEGACY"] ∧
      (∃ a, parse ["--padding=Legacy", "0x00"] = .ok a ∧ a.padding = some .legacy) ∧
      ¬ ∃ t, Settings.ofToml "padding = \"Legacy\"" = .ok t := by
  let r : Request := { descriptor := "0x00", noOption := by decide, barePath := by decide }
  have hbefore : ∀ option text, Giving r option text
      ["--" ++ option.longName ++ "=" ++ text, "0x00"] := fun option text =>
    ⟨by cases option <;> decide, [], [.descriptor "0x00"], by decide, rfl⟩
  have hbehind : ∀ option text, Giving r option text
      ["0x00", "--" ++ option.longName ++ "=" ++ text] := fun option text =>
    ⟨by cases option <;> decide, [.descriptor "0x00"], [], by decide, rfl⟩
  have hlong : Toml.ofString? "validation = \"ſlots\"" =
      some [("validation", .string "ſlots")] := by
    decide +kernel
  have hcapital : Toml.ofString? "padding = \"Legacy\"" =
      some [("padding", .string "Legacy")] := by
    decide +kernel
  obtain ⟨hpadding, hvalidation, hformat, hsame⟩ := names_mean_the_same
  -- a folding that takes the long s for an s
  let fold : Char → List Char := fun c => if c = 'ſ' then ['s'] else [c.toLower]
  have hfold : ∀ c, c.toNat < 128 → fold c = [c.toLower] := by
    intro c hc
    refine if_neg ?_
    rintro rfl
    exact absurd hc (by decide)
  have hslots := hvalidation.folded_refused fold hfold "ſlots" .slots (by decide) (by decide)
  have hjson := hformat.untrimmed_refused " json" (by decide)
  refine ⟨hslots.line r _ (hbefore .validation "ſlots"), hslots.file _ hlong,
    hjson.line r _ (hbehind .format " json"), ?_, ?_, ?_⟩
  · exact (hsame "Legacy" "lEGACY" (by decide)).1 r _ _ (hbefore .padding "Legacy")
      (hbehind .padding "lEGACY")
  · exact (hpadding.line_iff "Legacy" r _ (hbefore .padding "Legacy") .legacy).2 (by decide)
  · intro h
    have hboth := (hpadding.accepted_iff "Legacy" _ r _ hcapital (hbefore .padding "Legacy")).1 h
    exact absurd hboth.2 (by decide)

end CallDescriptor
