import CallDescriptor.Proofs.Settings.Keys
import CallDescriptor.Proofs.Toml.Keys
/-!
# Settings are read key by key

Whether an entry of a settings table is accepted, and what it gives, does not
depend on what stands beside it: each field is what its entry gives when it
is alone in the table (`ReadApart`). Entries under other names are never
looked at, beside the settings (`ofTable_known`) or inside the logger
(`readLogger_onlyLevel`), and the order of the others decides only which of
several faults is the one that is reported (`ofTable_eq_error_iff`).
-/

namespace CallDescriptor

namespace Settings

open Record Toml

variable {entries : Toml.Table} {s : Settings} {name : String} {v : Value}

/-- The names of the settings. -/
def keyNames : List String := ["padding", "validation", "format", "logger"]

/-! ## What is accepted -/

/-- **Settings are accepted if their entries are.** -/
theorem exists_ofTable_eq_ok_iff :
    (∃ s, ofTable entries = .ok s) ↔ checkEntries checks entries = .ok () := by
  refine ⟨fun ⟨s, h⟩ => checkEntries_of_ofTable h, fun h => ?_⟩
  have haccepted := (checkEntries_eq_ok_iff nodup_checks).1 h
  simp only [checks, List.forall_mem_cons] at haccepted
  obtain ⟨hp, hv, hf, hl, -⟩ := haccepted
  obtain ⟨padding, hpadding⟩ := exists_fills .trailing hp
  obtain ⟨validation, hvalidation⟩ := exists_fills .permissive hv
  obtain ⟨format, hformat⟩ := exists_fills .text hf
  obtain ⟨level, hlevel⟩ := exists_fills .warn hl
  exact ⟨⟨padding, validation, format, level⟩,
    ofTable_eq_ok_iff.2 ⟨hpadding, hvalidation, hformat, hlevel⟩⟩

/-- And a fault of theirs is the only one. -/
theorem ofTable_eq_error_iff_check {e : ReadError} :
    ofTable entries = .error e ↔ checkEntries checks entries = .error e := by
  cases hcheck : checkEntries checks entries with
  | ok u =>
    obtain ⟨s, hs⟩ := exists_ofTable_eq_ok_iff.2 hcheck
    rw [hs]
    exact ⟨nofun, nofun⟩
  | error e' =>
    have herror : ofTable entries = .error e' := by
      show (checkEntries checks entries >>= _) = _
      rw [hcheck]
      rfl
    rw [herror, Except.error.injEq, Except.error.injEq]

/-- **Settings are accepted if each entry is by itself.** -/
theorem exists_ofTable_eq_ok_iff_each :
    (∃ s, ofTable entries = .ok s) ↔ ∀ y ∈ entries, ∃ s, ofTable [y] = .ok s := by
  simp only [exists_ofTable_eq_ok_iff]
  exact checkEntries_eq_ok_iff_each

/-- **The first entry that is refused by itself is reported.** -/
theorem ofTable_eq_error_iff {e : ReadError} :
    ofTable entries = .error e ↔ ∃ before x after, entries = before ++ x :: after ∧
      (∀ y ∈ before, ∃ s, ofTable [y] = .ok s) ∧ ofTable [x] = .error e := by
  simp only [ofTable_eq_error_iff_check, exists_ofTable_eq_ok_iff]
  exact checkEntries_eq_error_iff

/-! ## What an entry gives -/

section Field

variable {α : Type} {field : Settings → α} {read : Value → Except ReadError α} {a : α}

/-- **An entry alone in a table gives its field** just if it is read. -/
theorem exists_ofTable_singleton_iff (hcheck : (name, check read) ∈ checks)
    (hfield : ∀ {entries s}, FilledFrom s entries →
      Fills entries name read (field {}) (field s)) :
    (∃ s, ofTable [(name, v)] = .ok s ∧ field s = a) ↔ read v = .ok a := by
  have hgiven {s} (hs : ofTable [(name, v)] = .ok s) : read v = .ok (field s) :=
    fills_singleton.1 (hfield (ofTable_eq_ok_iff.1 hs))
  constructor
  · rintro ⟨s, hs, rfl⟩
    exact hgiven hs
  · intro h
    have hentry := (checkEntries_singleton nodup_checks hcheck v).trans (check_eq_ok_iff.2 ⟨a, h⟩)
    obtain ⟨s, hs⟩ := exists_ofTable_eq_ok_iff.2 hentry
    exact ⟨s, hs, Except.ok.inj ((hgiven hs).symm.trans h)⟩

/-- `a` is what the entry under `name` gives for a field when it is alone in
its table, or the default of that field if there is no such entry. -/
def GivenApart (entries : Toml.Table) (name : String) (field : Settings → α) (a : α) : Prop :=
  match entry? entries name with
  | some v => ∃ s, ofTable [(name, v)] = .ok s ∧ field s = a
  | none => field {} = a

theorem givenApart_iff_fills (field : Settings → α) (hkeys : (entries.map Prod.fst).Nodup)
    (hcheck : (name, check read) ∈ checks)
    (hfield : ∀ {entries s}, FilledFrom s entries →
      Fills entries name read (field {}) (field s)) :
    GivenApart entries name field a ↔ Fills entries name read (field {}) a := by
  unfold GivenApart
  cases hentry : entry? entries name with
  | none =>
    constructor
    · rintro rfl
      exact fills_of_not_mem (not_found_iff.1 hentry)
    · intro h
      have hvalue := h.value_eq
      rw [optionalOr, hentry] at hvalue
      exact Except.ok.inj hvalue
  | some v =>
    dsimp only
    rw [exists_ofTable_singleton_iff hcheck hfield, fills_iff_of_found hkeys hentry]

end Field

/-- Each field of the settings is what its entry gives by itself. -/
structure ReadApart (s : Settings) (entries : Toml.Table) : Prop where
  padding : GivenApart entries "padding" Settings.padding s.padding
  validation : GivenApart entries "validation" Settings.validation s.validation
  format : GivenApart entries "format" Settings.format s.format
  level : GivenApart entries "logger" Settings.level s.level

/-- **Each field is read as if its entry were alone.** -/
theorem ofTable_eq_ok_iff_readApart (hkeys : (entries.map Prod.fst).Nodup) :
    ofTable entries = .ok s ↔ s.ReadApart entries := by
  have hp := givenApart_iff_fills Settings.padding (a := s.padding) hkeys (.head _)
    FilledFrom.padding
  have hv := givenApart_iff_fills Settings.validation (a := s.validation) hkeys
    (.tail _ (.head _)) FilledFrom.validation
  have hf := givenApart_iff_fills Settings.format (a := s.format) hkeys
    (.tail _ (.tail _ (.head _))) FilledFrom.format
  have hl := givenApart_iff_fills Settings.level (a := s.level) hkeys
    (.tail _ (.tail _ (.tail _ (.head _)))) FilledFrom.level
  rw [ofTable_eq_ok_iff]
  exact ⟨fun h => ⟨hp.2 h.padding, hv.2 h.validation, hf.2 h.format, hl.2 h.level⟩,
    fun h => ⟨hp.1 h.padding, hv.1 h.validation, hf.1 h.format, hl.1 h.level⟩⟩

/-- An entry under another name gives nothing and is no fault. -/
theorem ofTable_unknown (hname : name ∉ keyNames) : ofTable [(name, v)] = .ok {} := by
  simp only [keyNames, List.mem_cons, List.not_mem_nil, or_false, not_or] at hname
  obtain ⟨hp, hv, hf, hl⟩ := hname
  exact ofTable_eq_ok_iff.2
    ⟨fills_of_ne (Ne.symm hp), fills_of_ne (Ne.symm hv), fills_of_ne (Ne.symm hf),
      fills_of_ne (Ne.symm hl)⟩

/-! ## What is never looked at -/

/-- The value of `logger` without what is not looked at in it. -/
def onlyLevel : Value → Value
  | .table inner => .table (inner.filter fun e => e.1 == "level_filter")
  | v => v

theorem readLogger_onlyLevel (v : Value) : readLogger (onlyLevel v) = readLogger v := by
  cases v with
  | table inner =>
    have hentries : checkEntries [("level_filter", check (Value.readName Level.read))]
        (inner.filter fun e => e.1 == "level_filter") =
          checkEntries [("level_filter", check (Value.readName Level.read))] inner :=
      checkEntries_filter (· == "level_filter")
        (List.forall_mem_singleton.2 (beq_self_eq_true _))
    have hentry := entry?_filter (· == "level_filter") inner "level_filter"
    rw [if_pos (beq_self_eq_true _)] at hentry
    rw [onlyLevel, readLogger, readLogger, hentries, required, required, hentry]
  | string | integer | real | boolean | datetime | array | tables => rfl

/-- What is looked at of a value under a name. -/
def lookedAt (name : String) (v : Value) : Value := if name = "logger" then onlyLevel v else v

/-- The entries that are looked at, with what is looked at of their values. -/
def known (entries : Toml.Table) : Toml.Table :=
  (entries.filter fun e => e.1 ∈ keyNames).map fun e => (e.1, lookedAt e.1 e.2)

theorem nodup_keys_known (hkeys : (entries.map Prod.fst).Nodup) :
    ((known entries).map Prod.fst).Nodup := by
  have hsame : (known entries).map Prod.fst =
      (entries.filter fun e => e.1 ∈ keyNames).map Prod.fst := by
    rw [known, List.map_map]
    rfl
  rw [hsame]
  exact hkeys.sublist (List.filter_sublist.map Prod.fst)

theorem checkEntries_known (entries : Toml.Table) :
    checkEntries checks (known entries) = checkEntries checks entries := by
  have hkeys : ∀ c ∈ checks, decide (c.1 ∈ keyNames) = true :=
    fun c hc => decide_eq_true (List.mem_map_of_mem hc)
  have hvalues : ∀ c ∈ checks, ∀ v, c.2 (lookedAt c.1 v) = c.2 v := by
    simp only [checks, List.forall_mem_cons, List.not_mem_nil, false_implies, implies_true,
      and_true]
    refine ⟨fun v => rfl, fun v => rfl, fun v => rfl, fun v => ?_⟩
    rw [check, check, lookedAt, if_pos rfl, readLogger_onlyLevel]
  rw [known, checkEntries_map lookedAt hvalues]
  exact checkEntries_filter (· ∈ keyNames) hkeys

theorem optionalOr_known {α : Type} {read : Value → Except ReadError α} (default : α)
    (hname : name ∈ keyNames) (hread : ∀ v, read (lookedAt name v) = read v) :
    optionalOr default (known entries) name read = optionalOr default entries name read := by
  have hfilter := entry?_filter (· ∈ keyNames) entries name
  rw [if_pos (decide_eq_true hname)] at hfilter
  rw [optionalOr, optionalOr, known, entry?_map lookedAt hfilter]
  cases entry? entries name with
  | none => rfl
  | some v => exact hread v

/-- **What is not looked at changes nothing**, not even what is reported. -/
theorem ofTable_known (entries : Toml.Table) : ofTable (known entries) = ofTable entries := by
  show (checkEntries checks (known entries) >>= _) = (checkEntries checks entries >>= _)
  rw [checkEntries_known]
  congr 1
  funext u
  rw [optionalOr_known _ (by decide) fun v => rfl, optionalOr_known _ (by decide) fun v => rfl,
    optionalOr_known _ (by decide) fun v => rfl,
    optionalOr_known _ (by decide) readLogger_onlyLevel]

/-- **Nor does the order**, as long as the settings are accepted. -/
theorem ofTable_eq_ok_of_perm {entries' : Toml.Table} (h : ofTable entries = .ok s)
    (hkeys : (entries.map Prod.fst).Nodup) (hperm : entries.Perm entries') :
    ofTable entries' = .ok s := by
  have hfilled := ofTable_eq_ok_iff.1 h
  exact ofTable_eq_ok_iff.2 {
    padding := hfilled.padding.perm hkeys hperm
    validation := hfilled.validation.perm hkeys hperm
    format := hfilled.format.perm hkeys hperm
    level := hfilled.level.perm hkeys hperm }

theorem ofTable_eq_ok_iff_of_known_perm {entries' : Toml.Table}
    (hkeys : (entries.map Prod.fst).Nodup) (hperm : (known entries').Perm (known entries)) :
    ofTable entries' = .ok s ↔ ofTable entries = .ok s := by
  have hkeys' := nodup_keys_known hkeys
  rw [← ofTable_known entries', ← ofTable_known entries]
  constructor
  · intro h
    exact ofTable_eq_ok_of_perm h ((hperm.map Prod.fst).nodup_iff.2 hkeys') hperm
  · intro h
    exact ofTable_eq_ok_of_perm h hkeys' hperm.symm

/-! ## Settings files -/

variable {text : String}

theorem ofToml_eq_ok_iff (htext : Toml.ofString? text = some entries) :
    ofToml text = .ok s ↔ ofTable entries = .ok s := by
  rw [ofToml_eq htext]
  cases ofTable entries with
  | ok t =>
    show (Except.ok t = _) ↔ _
    rw [Except.ok.injEq, Except.ok.injEq]
  | error e => exact ⟨nofun, nofun⟩

theorem ofToml_eq_error_iff (htext : Toml.ofString? text = some entries) {e : SettingsError} :
    ofToml text = .error e ↔ ∃ cause, ofTable entries = .error cause ∧ e = .badValue cause := by
  rw [ofToml_eq htext]
  cases ofTable entries with
  | ok t => exact ⟨nofun, nofun⟩
  | error cause =>
    constructor
    · intro h
      exact ⟨cause, rfl, (Except.error.inj h).symm⟩
    · rintro ⟨cause', hcause, rfl⟩
      rw [Except.error.inj hcause]
      rfl

/-- **The keys of a settings file are read independently of each other.** A
file is accepted just if what it has for each key is accepted by itself, and
gives what the keys give by themselves, or their defaults. Entries under other
names, beside the settings or in the logger, and the order of entries change
nothing about that. If the file is refused, the first entry that is refused by
itself is the reason. -/
theorem keys_read_independently (htext : Toml.ofString? text = some entries) :
    ((∃ s, ofToml text = .ok s) ↔
        ∀ name ∈ keyNames, ∀ v, (name, v) ∈ entries → ∃ s, ofTable [(name, v)] = .ok s) ∧
      (∀ s, ofToml text = .ok s ↔ s.ReadApart entries) ∧
      (∀ text' entries', Toml.ofString? text' = some entries' →
        (known entries').Perm (known entries) →
          ∀ s, ofToml text' = .ok s ↔ ofToml text = .ok s) ∧
      (∀ text' entries', Toml.ofString? text' = some entries' → known entries' = known entries →
        ofToml text' = ofToml text) ∧
      ∀ e, ofToml text = .error e ↔ ∃ before x after cause, entries = before ++ x :: after ∧
        (∀ y ∈ before, ∃ s, ofTable [y] = .ok s) ∧ ofTable [x] = .error cause ∧
          e = .badValue cause := by
  have hkeys := nodup_keys_of_ofString? htext
  refine ⟨?_, fun s => ?_, fun text' entries' htext' hperm s => ?_,
    fun text' entries' htext' hknown => ?_, fun e => ?_⟩
  · rw [exists_congr fun s => ofToml_eq_ok_iff htext, exists_ofTable_eq_ok_iff_each]
    constructor
    · intro h name _ v hv
      exact h _ hv
    · rintro h ⟨name, v⟩ hv
      by_cases hname : name ∈ keyNames
      · exact h name hname v hv
      · exact ⟨{}, ofTable_unknown hname⟩
  · rw [ofToml_eq_ok_iff htext, ofTable_eq_ok_iff_readApart hkeys]
  · rw [ofToml_eq_ok_iff htext', ofToml_eq_ok_iff htext,
      ofTable_eq_ok_iff_of_known_perm hkeys hperm]
  · rw [ofToml_eq htext', ofToml_eq htext, ← ofTable_known entries', hknown, ofTable_known]
  · rw [ofToml_eq_error_iff htext]
    constructor
    · rintro ⟨cause, hcause, rfl⟩
      obtain ⟨before, x, after, hsplit, hbefore, hx⟩ := ofTable_eq_error_iff.1 hcause
      exact ⟨before, x, after, cause, hsplit, hbefore, hx, rfl⟩
    · rintro ⟨before, x, after, cause, hsplit, hbefore, hx, rfl⟩
      exact ⟨cause, ofTable_eq_error_iff.2 ⟨before, x, after, hsplit, hbefore, hx⟩, rfl⟩

/-- Three keys give what each gives by itself, with entries that are not
looked at beside them and in the logger, or in another order and without
these. Of two faults the first is reported. -/
theorem keys_read_independently_accepted_and_refused :
    let full :=
      "x=1\npadding=\"legacy\"\nformat=\"json\"\n[logger]\ncolor=true\nlevel_filter=\"debug\""
    let bare := "format=\"json\"\npadding=\"legacy\"\n[logger]\nlevel_filter=\"debug\""
    let faulty := "x=1\nformat=3\npadding=\"strip\""
    (ofTable [("padding", .string "legacy")] = .ok { padding := .legacy } ∧
      ofTable [("format", .string "json")] = .ok { format := .json } ∧
      ofTable [("logger", .table [("color", .boolean true), ("level_filter", .string "debug")])] =
        .ok { level := .debug } ∧
      ofToml full = .ok
        { padding := .legacy, validation := .permissive, format := .json, level := .debug } ∧
      ofToml bare = ofToml full) ∧
    Toml.ofString? faulty =
        some [("x", .integer 1), ("format", .integer 3), ("padding", .string "strip")] ∧
      ofTable [("x", .integer 1)] = .ok {} ∧
      ofTable [("format", .integer 3)] = .error .wantedStringOrTable ∧
      ofTable [("padding", .string "strip")] =
        .error (.unknownVariant "strip" ["trailing", "legacy"]) ∧
      ofToml faulty = .error (.badValue .wantedStringOrTable) := by
  intro full bare faulty
  have hfull : Toml.ofString? full =
      some [("x", .integer 1), ("padding", .string "legacy"), ("format", .string "json"),
        ("logger", .table [("color", .boolean true), ("level_filter", .string "debug")])] := by
    decide +kernel
  have hbare : Toml.ofString? bare =
      some [("format", .string "json"), ("padding", .string "legacy"),
        ("logger", .table [("level_filter", .string "debug")])] := by
    decide +kernel
  have hfaulty : Toml.ofString? faulty =
      some [("x", .integer 1), ("format", .integer 3), ("padding", .string "strip")] := by
    decide +kernel
  have hpadding : ofTable [("padding", .string "legacy")] = .ok { padding := .legacy } := by
    decide +kernel
  have hformat : ofTable [("format", .string "json")] = .ok { format := .json } := by
    decide +kernel
  have hlevel : ofTable [("logger", .table [("color", .boolean true),
      ("level_filter", .string "debug")])] = .ok { level := .debug } := by
    decide +kernel
  have hunknown : ofTable [("x", .integer 1)] = .ok {} := by decide +kernel
  have hnumber : ofTable [("format", .integer 3)] = .error .wantedStringOrTable := by
    decide +kernel
  have hstrip : ofTable [("padding", .string "strip")] =
      .error (.unknownVariant "strip" ["trailing", "legacy"]) := by
    decide +kernel
  obtain ⟨-, hread, hperm, -, -⟩ := keys_read_independently hfull
  obtain ⟨-, -, -, -, hrefused⟩ := keys_read_independently hfaulty
  have haccepted := (hread { padding := .legacy, format := .json, level := .debug }).2
    ⟨⟨_, hpadding, rfl⟩, rfl, ⟨_, hformat, rfl⟩, ⟨_, hlevel, rfl⟩⟩
  -- the known entries of the two texts differ in the order of the first two
  have hsame := (hperm bare _ hbare (List.Perm.swap _ _ _) _).2 haccepted
  refine ⟨⟨hpadding, hformat, hlevel, haccepted, hsame.trans haccepted.symm⟩, hfaulty, hunknown,
    hnumber, hstrip, (hrefused _).2 ?_⟩
  exact ⟨[("x", .integer 1)], ("format", .integer 3), [("padding", .string "strip")], _, rfl,
    List.forall_mem_singleton.2 ⟨_, hunknown⟩, hnumber, rfl⟩

end Settings

end CallDescriptor
