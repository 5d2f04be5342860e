import CallDescriptor.Record
import CallDescriptor.Proofs.Except
import Mathlib.Data.List.Nodup
/-!
# Records by their entries

What a record is read from does not depend on the order of its entries, nor
on those under other names. `Gives` says of one field all that matters: there
is an entry for it, and whatever is under its name reads as its value. `Fills`
says so of a field that need not be there, and goes on to hold of it when
entries are left out.
-/

namespace CallDescriptor

namespace Record

variable {α β : Type} {entries : List (String × β)} {name : String}
variable {read : β → Except ReadError α} {a : α}

/-- The entries under `name`, one at least, all read as `a`. -/
structure Gives (entries : List (String × β)) (name : String) (read : β → Except ReadError α)
    (a : α) : Prop where
  exists_mem : ∃ v, (name, v) ∈ entries
  read_eq : ∀ v, (name, v) ∈ entries → read v = .ok a

/-- **Fields are given by their entries** in any order, under names of their
own. -/
theorem gives_of_perm {members : List (String × β)} {v : β} (hperm : entries.Perm members)
    (hnames : (members.map Prod.fst).Nodup) (hmem : (name, v) ∈ members) (hread : read v = .ok a) :
    Gives entries name read a := by
  refine ⟨⟨v, hperm.mem_iff.2 hmem⟩, fun w hw => ?_⟩
  have hpair := List.inj_on_of_nodup_map hnames hmem (hperm.mem_iff.1 hw) rfl
  rwa [← (Prod.mk.inj hpair).2]

theorem check_eq_ok_iff {v : β} : check read v = .ok () ↔ ∃ a, read v = .ok a := by
  unfold check
  cases read v with
  | error e => exact ⟨nofun, fun ⟨a, h⟩ => nomatch h⟩
  | ok a => exact ⟨fun _ => ⟨a, rfl⟩, fun _ => rfl⟩

theorem mem_of_found {v : β} (h : entry? entries name = some v) : (name, v) ∈ entries := by
  obtain ⟨⟨n, w⟩, hfind, rfl⟩ := Option.map_eq_some_iff.1 h
  have hname := List.find?_some hfind
  obtain rfl : n = name := beq_iff_eq.1 hname
  exact List.mem_of_find?_eq_some hfind

theorem not_found_iff : entry? entries name = none ↔ ∀ v, (name, v) ∉ entries := by
  unfold entry?
  rw [Option.map_eq_none_iff, List.find?_eq_none]
  constructor
  · intro h v hmem
    exact h _ hmem (beq_self_eq_true name)
  · rintro h ⟨n, v⟩ hmem heq
    obtain rfl : n = name := beq_iff_eq.1 heq
    exact h v hmem

theorem Gives.exists_found (h : Gives entries name read a) :
    ∃ v, entry? entries name = some v ∧ read v = .ok a := by
  cases hentry : entry? entries name with
  | none =>
    obtain ⟨v, hv⟩ := h.exists_mem
    exact absurd hv (not_found_iff.1 hentry v)
  | some v => exact ⟨v, rfl, h.read_eq v (mem_of_found hentry)⟩

/-- A given field is there and reads as its value. -/
theorem Gives.required_eq (h : Gives entries name read a) :
    required entries name read = .ok a := by
  obtain ⟨v, hentry, hread⟩ := h.exists_found
  rw [required, hentry]
  exact hread

/-- So it does where it need not be there. -/
theorem Gives.optionalOr_eq (h : Gives entries name read a) (default : α) :
    optionalOr default entries name read = .ok a := by
  obtain ⟨v, hentry, hread⟩ := h.exists_found
  rw [optionalOr, hentry]
  exact hread

/-- And its entries pass their check. -/
theorem Gives.check_eq (h : Gives entries name read a) {v : β} (hv : (name, v) ∈ entries) :
    check read v = .ok () := by
  rw [check, h.read_eq v hv]
  rfl

/-- Entries under other names may stand beside it. -/
theorem Gives.of_filter (keep : String → Bool) (hkeep : keep name = true)
    (h : Gives (entries.filter fun e => keep e.1) name read a) : Gives entries name read a := by
  obtain ⟨v, hv⟩ := h.exists_mem
  exact ⟨⟨v, List.mem_of_mem_filter hv⟩, fun w hw => h.read_eq w (List.mem_filter.2 ⟨hw, hkeep⟩)⟩

/-- So fields are given by the entries under their names, whatever else is there. -/
theorem gives_of_filter_perm {names : List String} {members : List (String × β)} {v : β}
    (hperm : (entries.filter fun e => e.1 ∈ names).Perm members)
    (hnames : (members.map Prod.fst).Nodup) (hname : name ∈ names) (hmem : (name, v) ∈ members)
    (hread : read v = .ok a) : Gives entries name read a :=
  (gives_of_perm hperm hnames hmem hread).of_filter (· ∈ names) (decide_eq_true hname)

/-- **Entries are accepted** if those of each field pass its check. -/
theorem checkEntries_eq_ok {checks : Checks β}
    (h : ∀ c ∈ checks, ∀ v, (c.1, v) ∈ entries → c.2 v = .ok ()) :
    checkEntries checks entries = .ok () := by
  refine forM_eq_ok_iff.2 fun e he => ?_
  cases hfind : checks.find? (·.1 == e.1) with
  | none => rfl
  | some c =>
    have hname := List.find?_some hfind
    have hname' : c.1 = e.1 := beq_iff_eq.1 hname
    exact h c (List.mem_of_find?_eq_some hfind) e.2 (hname' ▸ he)

section Checks

variable {checks : Checks β} {c : String × (β → Except ReadError Unit)}

/-- Among fields under names of their own each is found under its name. -/
theorem find?_checks (hnames : (checks.map Prod.fst).Nodup) (hc : c ∈ checks) :
    checks.find? (·.1 == c.1) = some c := by
  cases hfind : checks.find? (·.1 == c.1) with
  | none => exact absurd (beq_self_eq_true c.1) (List.find?_eq_none.1 hfind c hc)
  | some d =>
    have hname := List.find?_some hfind
    have hname' : d.1 = c.1 := beq_iff_eq.1 hname
    rw [List.inj_on_of_nodup_map hnames (List.mem_of_find?_eq_some hfind) hc hname']

/-- One entry is checked as its field asks. -/
theorem checkEntries_singleton (hnames : (checks.map Prod.fst).Nodup) (hc : c ∈ checks) (v : β) :
    checkEntries checks [(c.1, v)] = c.2 v := by
  unfold checkEntries
  rw [forM_singleton, find?_checks hnames hc]

/-- So entries are accepted only then. -/
theorem checkEntries_eq_ok_iff (hnames : (checks.map Prod.fst).Nodup) :
    checkEntries checks entries = .ok () ↔
      ∀ c ∈ checks, ∀ v, (c.1, v) ∈ entries → c.2 v = .ok () := by
  refine ⟨fun h c hc v hv => ?_, checkEntries_eq_ok⟩
  have hentry := forM_eq_ok_iff.1 h _ hv
  rwa [find?_checks hnames hc] at hentry

/-- **The first entry that its field refuses is blamed.** -/
theorem exists_of_checkEntries_eq_error {e : ReadError}
    (h : checkEntries checks entries = .error e) :
    ∃ before v after, ∃ c ∈ checks, entries = before ++ (c.1, v) :: after ∧
      checkEntries checks before = .ok () ∧ c.2 v = .error e := by
  obtain ⟨before, ⟨name, v⟩, after, rfl, hbefore, hv⟩ := exists_of_forM_eq_error h
  cases hfind : checks.find? (·.1 == name) with
  | none =>
    rw [hfind] at hv
    exact nomatch hv
  | some c =>
    rw [hfind] at hv
    have hname := List.find?_some hfind
    obtain rfl : c.1 = name := beq_iff_eq.1 hname
    exact ⟨before, v, after, c, List.mem_of_find?_eq_some hfind, rfl, forM_eq_ok_iff.2 hbefore, hv⟩

/-- **The first entry that is refused by itself is blamed.** -/
theorem checkEntries_eq_error_iff {e : ReadError} :
    checkEntries checks entries = .error e ↔ ∃ before x after, entries = before ++ x :: after ∧
      (∀ y ∈ before, checkEntries checks [y] = .ok ()) ∧ checkEntries checks [x] = .error e := by
  unfold checkEntries
  simp only [forM_singleton]
  exact forM_eq_error_iff

/-- **Entries are accepted** if each is by itself. -/
theorem checkEntries_eq_ok_iff_each :
    checkEntries checks entries = .ok () ↔ ∀ y ∈ entries, checkEntries checks [y] = .ok () := by
  unfold checkEntries
  simp only [forM_singleton]
  exact forM_eq_ok_iff

end Checks

/-! ## Fields that need not be there -/

/-- What stands under `name` is accepted, and `a` is what the field has, be it
read or the default. -/
structure Fills (entries : List (String × β)) (name : String) (read : β → Except ReadError α)
    (default a : α) : Prop where
  accepted : ∀ v, (name, v) ∈ entries → check read v = .ok ()
  value_eq : optionalOr default entries name read = .ok a

theorem Gives.fills (h : Gives entries name read a) (default : α) :
    Fills entries name read default a :=
  ⟨fun _ => h.check_eq, h.optionalOr_eq default⟩

theorem entry?_filter (keep : String → Bool) (entries : List (String × β)) (name : String) :
    entry? (entries.filter fun e => keep e.1) name =
      if keep name then entry? entries name else none := by
  unfold entry?
  rw [List.find?_filter]
  cases hkeep : keep name with
  | false =>
    rw [List.find?_eq_none.2]
    · rfl
    · rintro e - hfound
      obtain ⟨he, hname⟩ := of_decide_eq_true hfound
      rw [beq_iff_eq.1 hname, hkeep] at he
      exact absurd he Bool.false_ne_true
  | true =>
    have hsame (e : String × β) : decide (keep e.1 = true ∧ (e.1 == name) = true) =
        (e.1 == name) := by
      by_cases hname : e.1 = name
      · simp only [hname, hkeep, beq_self_eq_true, and_self, decide_true]
      · simp only [beq_false_of_ne hname, Bool.false_eq_true, and_false, decide_false]
    simp only [hsame, if_true]

/-- **A field whose entries are left out has its default**, and any other is as
it was. -/
theorem Fills.filter {default : α} (h : Fills entries name read default a)
    (keep : String → Bool) :
    Fills (entries.filter fun e => keep e.1) name read default
      (if keep name then a else default) := by
  refine ⟨fun v hv => h.accepted v (List.mem_of_mem_filter hv), ?_⟩
  rw [optionalOr, entry?_filter]
  cases keep name with
  | false => rfl
  | true => exact h.value_eq

/-- Without an entry a field has its default. -/
theorem fills_of_not_mem {default : α} (h : ∀ v, (name, v) ∉ entries) :
    Fills entries name read default default := by
  refine ⟨fun v hv => absurd hv (h v), ?_⟩
  rw [optionalOr, not_found_iff.2 h]

/-- A field can be filled if what stands under its name is accepted. -/
theorem exists_fills (default : α) (h : ∀ v, (name, v) ∈ entries → check read v = .ok ()) :
    ∃ a, Fills entries name read default a := by
  cases hentry : entry? entries name with
  | none => exact ⟨default, fills_of_not_mem (not_found_iff.1 hentry)⟩
  | some v =>
    have haccepted := h v (mem_of_found hentry)
    obtain ⟨a, hread⟩ := check_eq_ok_iff.1 haccepted
    exact ⟨a, h, by rw [optionalOr, hentry]; exact hread⟩

/-! ## Entries under names of their own -/

theorem found_of_mem (hnames : (entries.map Prod.fst).Nodup) {v : β} (hmem : (name, v) ∈ entries) :
    entry? entries name = some v := by
  cases hentry : entry? entries name with
  | none => exact absurd hmem (not_found_iff.1 hentry v)
  | some w =>
    have hpair := List.inj_on_of_nodup_map hnames (mem_of_found hentry) hmem rfl
    rw [(Prod.mk.inj hpair).2]

/-- The order of entries does not matter to a field. -/
theorem Fills.perm {entries' : List (String × β)} {default : α}
    (h : Fills entries name read default a) (hnames : (entries.map Prod.fst).Nodup)
    (hperm : entries.Perm entries') : Fills entries' name read default a := by
  have hnames' : (entries'.map Prod.fst).Nodup := (hperm.map Prod.fst).nodup_iff.1 hnames
  have hentry : entry? entries' name = entry? entries name := by
    cases hfound : entry? entries name with
    | none =>
      rw [not_found_iff] at hfound ⊢
      exact fun v hv => hfound v (hperm.mem_iff.2 hv)
    | some v => exact found_of_mem hnames' (hperm.mem_iff.1 (mem_of_found hfound))
  refine ⟨fun v hv => h.accepted v (hperm.mem_iff.2 hv), ?_⟩
  rw [optionalOr, hentry]
  exact h.value_eq

/-- A field is what its entry reads as. -/
theorem fills_iff_of_found {v : β} {default : α} (hnames : (entries.map Prod.fst).Nodup)
    (hentry : entry? entries name = some v) :
    Fills entries name read default a ↔ read v = .ok a := by
  have hvalue : optionalOr default entries name read = read v := by
    rw [optionalOr, hentry]
  constructor
  · intro h
    exact hvalue.symm.trans h.value_eq
  · intro hread
    refine ⟨fun w hw => ?_, hvalue.trans hread⟩
    obtain rfl := Option.some.inj (hentry.symm.trans (found_of_mem hnames hw))
    exact check_eq_ok_iff.2 ⟨a, hread⟩

/-- The one entry that there is gives its field. -/
theorem fills_singleton {v : β} {default : α} :
    Fills [(name, v)] name read default a ↔ read v = .ok a := by
  have hnames : ([(name, v)].map Prod.fst).Nodup := List.nodup_singleton name
  exact fills_iff_of_found hnames (found_of_mem hnames (List.mem_singleton_self _))

/-- And leaves every other with its default. -/
theorem fills_of_ne {name' : String} {v : β} {default : α} (hne : name ≠ name') :
    Fills [(name', v)] name read default default :=
  fills_of_not_mem fun _ hw => hne (Prod.mk.inj (List.mem_singleton.1 hw)).1

/-! ## Other values under the same names -/

/-- A value found under its name is found as it has become. -/
theorem entry?_map (g : String → β → β) {found : Option β} (h : entry? entries name = found) :
    entry? (entries.map fun e => (e.1, g e.1 e.2)) name = found.map (g name) := by
  subst h
  induction entries with
  | nil => rfl
  | cons e entries ih =>
    unfold entry? at ih ⊢
    rw [List.map_cons, List.find?_cons, List.find?_cons]
    cases hname : e.1 == name with
    | false => exact ih
    | true => rw [← beq_iff_eq.1 hname]; rfl

section Entries

variable {checks : Checks β}

/-- Entries that no field is under are never blamed. -/
theorem checkEntries_filter (keep : String → Bool) (h : ∀ c ∈ checks, keep c.1 = true) :
    checkEntries checks (entries.filter fun e => keep e.1) = checkEntries checks entries := by
  refine forM_filter fun e _ hgone => ?_
  have hnone : checks.find? (·.1 == e.1) = none := by
    refine List.find?_eq_none.2 fun c hc hname => ?_
    rw [← beq_iff_eq.1 hname, h c hc] at hgone
    exact absurd hgone (by decide)
  rw [hnone]

/-- A value can stand for another that is checked alike. -/
theorem checkEntries_map (g : String → β → β) (h : ∀ c ∈ checks, ∀ v, c.2 (g c.1 v) = c.2 v) :
    checkEntries checks (entries.map fun e => (e.1, g e.1 e.2)) = checkEntries checks entries := by
  refine forM_map fun e _ => ?_
  dsimp only
  cases hfind : checks.find? (·.1 == e.1) with
  | none => rfl
  | some c =>
    have hname := List.find?_some hfind
    rw [← beq_iff_eq.1 hname]
    exact h c (List.mem_of_find?_eq_some hfind) e.2

end Entries

end Record

end CallDescriptor
