import CallDescriptor.Proofs.Record
import CallDescriptor.Settings.Reading
/-!
# Which keys of a settings file can be left out

Settings are read from a table field by field (`ofTable_eq_ok_iff`), so a key
of the table itself can be left out: its setting has its default then, and the
others are as they were. The level stands in a table of its own. That table
can be left out with all that is in it, but while it stays the level has to
stay too, although it has a default as the others have
(`level_alone_cannot_be_left_out`).
-/

namespace CallDescriptor

namespace Settings

open Record Toml

variable {entries : Toml.Table} {s : Settings}

/-! ## Settings field by field -/

/-- Each field of the settings is what the table has for it, or its default. -/
structure FilledFrom (s : Settings) (entries : Toml.Table) : Prop where
  padding : Fills entries "padding" (Value.readName Named.read) .trailing s.padding
  validation : Fills entries "validation" (Value.readName Named.read) .permissive s.validation
  format : Fills entries "format" (Value.readName Named.read) .text s.format
  level : Fills entries "logger" readLogger .warn s.level

/-- How the entry of each field is checked. -/
def checks : Checks Value :=
  [("padding", check (Value.readName (Named.read (α := Padding)))),
    ("validation", check (Value.readName (Named.read (α := Validation)))),
    ("format", check (Value.readName (Named.read (α := ReportFormat)))),
    ("logger", check readLogger)]

theorem nodup_checks : (checks.map Prod.fst).Nodup := by decide

theorem checkEntries_of_ofTable (h : ofTable entries = .ok s) :
    checkEntries checks entries = .ok () := by
  obtain ⟨⟨⟩, hentries, -⟩ := exists_of_bind_eq_ok h
  exact hentries

/-- **Settings are read field by field.** -/
theorem ofTable_eq_ok_iff : ofTable entries = .ok s ↔ s.FilledFrom entries := by
  constructor
  · intro h
    have haccepted := (checkEntries_eq_ok_iff nodup_checks).1 (checkEntries_of_ofTable h)
    obtain ⟨⟨⟩, -, h⟩ := exists_of_bind_eq_ok h
    obtain ⟨padding, hpadding, h⟩ := exists_of_bind_eq_ok h
    obtain ⟨validation, hvalidation, h⟩ := exists_of_bind_eq_ok h
    obtain ⟨format, hformat, h⟩ := exists_of_bind_eq_ok h
    obtain ⟨level, hlevel, h⟩ := exists_of_bind_eq_ok h
    obtain rfl := Except.ok.inj h
    simp only [checks, List.forall_mem_cons] at haccepted
    obtain ⟨hp, hv, hf, hl, -⟩ := haccepted
    exact ⟨⟨hp, hpadding⟩, ⟨hv, hvalidation⟩, ⟨hf, hformat⟩, ⟨hl, hlevel⟩⟩
  · intro h
    have hentries : checkEntries checks entries = .ok () := by
      refine checkEntries_eq_ok ?_
      simp only [checks, List.forall_mem_cons]
      exact ⟨h.padding.accepted, h.validation.accepted, h.format.accepted, h.level.accepted, nofun⟩
    unfold ofTable
    show (checkEntries checks entries >>= _) = _
    rw [hentries]
    simp only [h.padding.value_eq, h.validation.value_eq, h.format.value_eq, h.level.value_eq]
    rfl

/-! ## Keys that are left out -/

/-- What has a default in a settings file. -/
inductive Key where
  | padding
  | validation
  | format
  /-- The table of the level. -/
  | logger
  | levelFilter
  deriving DecidableEq, Repr

/-- The names under which a key stands, the outer one first. -/
def Key.path : Key → List String
  | padding => ["padding"]
  | validation => ["validation"]
  | format => ["format"]
  | logger => ["logger"]
  | levelFilter => ["logger", "level_filter"]

theorem Key.path_injective : Function.Injective Key.path := by
  intro k k' h
  cases k <;> cases k' <;> first | rfl | exact absurd h (by decide)

/-- A value without the level, if it is a table. -/
def withoutLevel : Value → Value
  | .table inner => .table (inner.filter fun e => e.1 != "level_filter")
  | v => v

/-- A table without the level in its logger, which stays. -/
def dropLevel (entries : Toml.Table) : Toml.Table :=
  entries.map fun e => if e.1 = "logger" then (e.1, withoutLevel e.2) else e

/-- Whether an entry of the table itself stays. -/
def stays (gone : List Key) (name : String) : Bool := [name] ∉ gone.map Key.path

/-- A table without the keys that are gone. -/
def without (gone : List Key) (entries : Toml.Table) : Toml.Table :=
  let kept := entries.filter fun e => stays gone e.1
  if .levelFilter ∈ gone then dropLevel kept else kept

/-- Settings with the defaults for keys that are gone. -/
def reset (gone : List Key) (s : Settings) : Settings where
  padding := if .padding ∈ gone then .trailing else s.padding
  validation := if .validation ∈ gone then .permissive else s.validation
  format := if .format ∈ gone then .text else s.format
  level := if .logger ∈ gone then .warn else s.level

variable {gone : List Key}

theorem stays_path (k : Key) {name : String} (hpath : k.path = [name]) :
    stays gone name = decide (k ∉ gone) := by
  unfold stays
  rw [← hpath]
  exact decide_eq_decide.2 (not_congr (List.mem_map_of_injective Key.path_injective))

/-- A field has its default if its key is gone. -/
theorem fills_filter_stays {α : Type} {read : Value → Except ReadError α} {default a : α} (k : Key)
    {name : String} (hpath : k.path = [name]) (h : Fills entries name read default a) :
    Fills (entries.filter fun e => stays gone e.1) name read default
      (if k ∈ gone then default else a) := by
  have hfield := h.filter (stays gone)
  rw [stays_path k hpath] at hfield
  by_cases hk : k ∈ gone
  · rw [if_pos hk]
    rwa [decide_eq_false (not_not_intro hk), if_neg Bool.false_ne_true] at hfield
  · rw [if_neg hk]
    rwa [decide_eq_true hk, if_pos rfl] at hfield

/-- **Keys of the table itself can be left out.** -/
theorem ofTable_filter_stays (gone : List Key) (h : ofTable entries = .ok s) :
    ofTable (entries.filter fun e => stays gone e.1) = .ok (s.reset gone) := by
  have hfilled := ofTable_eq_ok_iff.1 h
  exact ofTable_eq_ok_iff.2 {
    padding := fills_filter_stays .padding rfl hfilled.padding
    validation := fills_filter_stays .validation rfl hfilled.validation
    format := fills_filter_stays .format rfl hfilled.format
    level := fills_filter_stays .logger rfl hfilled.level }

/-! ## The level -/

/-- A logger without its level is refused, whatever else is in it. -/
theorem readLogger_withoutLevel (inner : Toml.Table) :
    readLogger (withoutLevel (.table inner)) = .error (.missingField "level_filter") := by
  have hgone : ∀ v, ("level_filter", v) ∉ inner.filter fun e => e.1 != "level_filter" := by
    intro v hv
    exact absurd (List.mem_filter.1 hv).2 (by simp)
  have hentries : checkEntries [("level_filter", check (Value.readName Level.read))]
      (inner.filter fun e => e.1 != "level_filter") = .ok () := by
    refine checkEntries_eq_ok ?_
    rw [List.forall_mem_singleton]
    exact fun v hv => absurd hv (hgone v)
  show (checkEntries _ _ >>= fun _ => required _ _ _) = _
  rw [hentries, required, not_found_iff.2 hgone]
  rfl

theorem mem_dropLevel {name : String} {v : Value} : (name, v) ∈ dropLevel entries ↔
    ∃ w, (name, w) ∈ entries ∧ v = if name = "logger" then withoutLevel w else w := by
  unfold dropLevel
  rw [List.mem_map]
  constructor
  · rintro ⟨⟨n, w⟩, hw, heq⟩
    by_cases hname : n = "logger"
    · rw [if_pos hname] at heq
      obtain ⟨rfl, rfl⟩ := Prod.mk.inj heq
      exact ⟨w, hw, (if_pos hname).symm⟩
    · rw [if_neg hname] at heq
      obtain ⟨rfl, rfl⟩ := Prod.mk.inj heq
      exact ⟨w, hw, (if_neg hname).symm⟩
  · rintro ⟨w, hw, rfl⟩
    exact ⟨_, hw, (apply_ite (Prod.mk name) (name = "logger") (withoutLevel w) w).symm⟩

/-- Without a table for the level there is nothing to drop. -/
theorem dropLevel_eq_self (h : ∀ inner, ("logger", .table inner) ∉ entries) :
    dropLevel entries = entries := by
  refine (List.map_congr_left fun e he => ?_).trans (List.map_id _)
  split
  · next hname =>
    obtain ⟨name, v⟩ := e
    obtain rfl : name = "logger" := hname
    cases v with
    | table inner => exact absurd he (h inner)
    | _ => rfl
  · rfl

/-- What is refused without its level is refused for that. -/
theorem eq_missingField_of_withoutLevel {v : Value} {cause : ReadError}
    (hread : check readLogger v = .ok ())
    (hcause : check readLogger (withoutLevel v) = .error cause) :
    cause = .missingField "level_filter" := by
  cases v with
  | table inner =>
    rw [check, readLogger_withoutLevel] at hcause
    exact (Except.error.inj hcause).symm
  | _ => cases hread.symm.trans hcause

/-- **The level of a table that stays cannot be left out.** -/
theorem ofTable_dropLevel {inner : Toml.Table} (h : ofTable entries = .ok s)
    (hmem : ("logger", .table inner) ∈ entries) :
    ofTable (dropLevel entries) = .error (.missingField "level_filter") := by
  have hlogger : ("logger", check readLogger) ∈ checks := by simp [checks]
  cases hdropped : checkEntries checks (dropLevel entries) with
  | ok u =>
    have haccepted : check readLogger (withoutLevel (.table inner)) = .ok () :=
      (checkEntries_eq_ok_iff nodup_checks).1 hdropped _ hlogger _
        (mem_dropLevel.2 ⟨_, hmem, (if_pos rfl).symm⟩)
    rw [check, readLogger_withoutLevel] at haccepted
    cases haccepted
  | error cause =>
    obtain ⟨before, v, after, c, hc, hsplit, -, hcause⟩ := exists_of_checkEntries_eq_error hdropped
    have hv : (c.1, v) ∈ dropLevel entries := hsplit ▸ List.mem_append_cons_self
    obtain ⟨w, hw, rfl⟩ := mem_dropLevel.1 hv
    have haccepted := (checkEntries_eq_ok_iff nodup_checks).1 (checkEntries_of_ofTable h) c hc w hw
    by_cases hname : c.1 = "logger"
    · obtain rfl : c = ("logger", check readLogger) :=
        List.inj_on_of_nodup_map nodup_checks hc hlogger hname
      rw [if_pos rfl] at hcause
      obtain rfl := eq_missingField_of_withoutLevel haccepted hcause
      show (checkEntries checks _ >>= _) = _
      rw [hdropped]
      rfl
    · rw [if_neg hname] at hcause
      cases haccepted.symm.trans hcause

/-! ## Tables and texts -/

/-- The level goes and its table stays. -/
def LosesLevel (gone : List Key) (entries : Toml.Table) : Prop :=
  .levelFilter ∈ gone ∧ .logger ∉ gone ∧ ∃ inner, ("logger", .table inner) ∈ entries

/-- **Losing the level is the only loss that is refused.** -/
theorem ofTable_without (gone : List Key) (h : ofTable entries = .ok s) :
    (LosesLevel gone entries →
        ofTable (without gone entries) = .error (.missingField "level_filter")) ∧
      (¬ LosesLevel gone entries → ofTable (without gone entries) = .ok (s.reset gone)) := by
  have hkept := ofTable_filter_stays gone h
  have hstays : stays gone "logger" = true ↔ .logger ∉ gone := by
    rw [stays_path .logger rfl, decide_eq_true_iff]
  constructor
  · rintro ⟨hlevel, hlogger, inner, hmem⟩
    unfold without
    rw [if_pos hlevel]
    exact ofTable_dropLevel hkept (List.mem_filter.2 ⟨hmem, hstays.2 hlogger⟩)
  · intro hnot
    unfold without
    split
    · next hlevel =>
      rw [dropLevel_eq_self]
      · exact hkept
      · intro inner hmem
        obtain ⟨hmem, hlogger⟩ := List.mem_filter.1 hmem
        exact hnot ⟨hlevel, hstays.1 hlogger, inner, hmem⟩
    · exact hkept

theorem ofToml_eq {text : String} (h : Toml.ofString? text = some entries) :
    ofToml text = (ofTable entries).mapError .badValue := by
  unfold ofToml
  rw [h]

/-- **Keys of an accepted settings file can be left out**, each for its
default and with no other setting touched. The one exception is the level: a
table that stays without it is refused. -/
theorem level_alone_cannot_be_left_out {text text' : String} (haccepted : ofToml text = .ok s)
    (htext : Toml.ofString? text = some entries)
    (hleft : Toml.ofString? text' = some (without gone entries)) :
    (LosesLevel gone entries → ofToml text' = .error (.badValue (.missingField "level_filter"))) ∧
      (¬ LosesLevel gone entries → ofToml text' = .ok (s.reset gone)) := by
  rw [ofToml_eq htext] at haccepted
  have htable : ofTable entries = .ok s := by
    cases hread : ofTable entries with
    | error e =>
      rw [hread] at haccepted
      exact nomatch haccepted
    | ok s' =>
      rw [hread] at haccepted
      rw [Except.ok.inj haccepted]
  obtain ⟨hloses, hkeeps⟩ := ofTable_without gone htable
  rw [ofToml_eq hleft]
  refine ⟨fun h => ?_, fun h => ?_⟩
  · rw [hloses h]
    rfl
  · rw [hkeeps h]
    rfl

/-- The header of the logger is all that stays: the padding would have its
default, but the text is refused. -/
theorem level_alone_cannot_be_left_out_of_logger :
    ofToml "padding=\"legacy\"\n[logger]\nlevel_filter=\"debug\"" =
        .ok { padding := .legacy, level := .debug } ∧
      ofToml "[logger]" = .error (.badValue (.missingField "level_filter")) := by
  have haccepted : ofToml "padding=\"legacy\"\n[logger]\nlevel_filter=\"debug\"" =
      .ok { padding := .legacy, level := .debug } := by
    decide +kernel
  have htext : Toml.ofString? "padding=\"legacy\"\n[logger]\nlevel_filter=\"debug\"" =
      some [("padding", .string "legacy"),
        ("logger", .table [("level_filter", .string "debug")])] := by
    decide +kernel
  have hheader : Toml.ofString? "[logger]" = some [("logger", .table [])] := by decide +kernel
  have hleft : without [.padding, .levelFilter]
      [("padding", .string "legacy"), ("logger", .table [("level_filter", .string "debug")])] =
        [("logger", .table [])] := by
    rfl
  have hloses : LosesLevel [.padding, .levelFilter]
      [("padding", .string "legacy"), ("logger", .table [("level_filter", .string "debug")])] :=
    ⟨by decide, by decide, _, List.mem_cons_of_mem _ (List.mem_singleton_self _)⟩
  exact ⟨haccepted, (level_alone_cannot_be_left_out haccepted htext
    (hheader.trans (congrArg some hleft.symm))).1 hloses⟩

end Settings

end CallDescriptor
