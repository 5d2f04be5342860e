import CallDescriptor.CommandLine
import CallDescriptor.Proofs.Except
/-!
# How often a command line asks for a raise

What asks for a raise of the log level can be told from each argument by
itself: the long flag, or letters `v` after one hyphen and in front of an
option with a value. Reading a command line counts just these, up to
255 of them (`verbose_of_parse`). A value is never counted, since nothing
that begins with a hyphen is taken for the value of an option in front.
-/

namespace CallDescriptor

namespace CommandLine

/-! ## What asks for a raise -/

/-- How often letters after one hyphen do: those behind an option with a
value belong to the value. -/
def lettersRaises (letters : List Char) : Nat :=
  (letters.takeWhile fun c => (shortOption? c).isNone).count 'v'

/-- How often an argument does, where options have not ended. -/
def argumentRaises (arg : String) : Nat :=
  match arg.toList with
  | '-' :: '-' :: name => if name = "verbose".toList then 1 else 0
  | '-' :: letter :: rest => lettersRaises (letter :: rest)
  | _ => 0

/-- How often a command line does: behind two bare hyphens nothing is an
option. -/
def raises (args : List String) : Nat :=
  (args.takeWhile (· != "--")).foldr (fun arg n => argumentRaises arg + n) 0

namespace Scan

variable {s s' s'' : Scan} {m n : Nat}

/-! ## Giving an option its value -/

/-- From `s`, an option that has no value yet takes one that is a value of it. -/
inductive Assigned (s : Scan) : ValueOption → String → Scan → Prop
  | config {v : String} (hnew : s.config = none) (hv : v ≠ "") :
      Assigned s .config v { s with config := some v }
  | padding {v : String} {p : Padding} (hnew : s.padding = none)
      (hv : Named.ofNameAnyCase? v = some p) :
      Assigned s .padding v { s with padding := some p }
  | validation {v : String} {p : Validation} (hnew : s.validation = none)
      (hv : Named.ofNameAnyCase? v = some p) :
      Assigned s .validation v { s with validation := some p }
  | format {v : String} {f : ReportFormat} (hnew : s.format = none)
      (hv : Named.ofName? v = some f) :
      Assigned s .format v { s with format := some f }

/-- No option takes a second value. -/
theorem unset_eq_ok_iff {α : Type} {o : Option α} {x : Except Stop Scan} :
    (if o.isSome then .error .conflict else x) = .ok s' ↔ o = none ∧ x = .ok s' := by
  cases o with
  | none => exact ⟨fun h => ⟨rfl, h⟩, fun h => h.2⟩
  | some a => exact ⟨nofun, fun h => nomatch h.1⟩

theorem assign_eq_ok_iff {option : ValueOption} {v : String} :
    s.assign option v = .ok s' ↔ Assigned s option v s' := by
  constructor
  · intro h
    cases option with
    | config =>
      obtain ⟨hnew, hvalue⟩ := unset_eq_ok_iff.1 h
      split at hvalue
      · exact nomatch hvalue
      · next hv =>
        obtain rfl := Except.ok.inj hvalue
        exact .config hnew hv
    | padding =>
      obtain ⟨hnew, hvalue⟩ := unset_eq_ok_iff.1 h
      split at hvalue
      · next hv =>
        obtain rfl := Except.ok.inj hvalue
        exact .padding hnew hv
      · exact nomatch hvalue
    | validation =>
      obtain ⟨hnew, hvalue⟩ := unset_eq_ok_iff.1 h
      split at hvalue
      · next hv =>
        obtain rfl := Except.ok.inj hvalue
        exact .validation hnew hv
      · exact nomatch hvalue
    | format =>
      obtain ⟨hnew, hvalue⟩ := unset_eq_ok_iff.1 h
      split at hvalue
      · next hv =>
        obtain rfl := Except.ok.inj hvalue
        exact .format hnew hv
      · exact nomatch hvalue
  · intro h
    cases h with
    | config hnew hv => simp [assign, hnew, hv]
    | padding hnew hv => simp [assign, hnew, hv]
    | validation hnew hv => simp [assign, hnew, hv]
    | format hnew hv => simp [assign, hnew, hv]

/-! ## Counting raises -/

/-- From `s` to `s'` there were `n` raises, and options have not ended. -/
structure Raised (n : Nat) (s s' : Scan) : Prop where
  verbose : s.verbose ≤ maxVerbose → s'.verbose = min (s.verbose + n) maxVerbose
  optionsEnded : s'.optionsEnded = s.optionsEnded

/-- What touches neither field is no raise. -/
theorem raised_zero (hverbose : s'.verbose = s.verbose)
    (hended : s'.optionsEnded = s.optionsEnded) : Raised 0 s s' := by
  refine ⟨fun hle => ?_, hended⟩
  rw [hverbose, Nat.add_zero, Nat.min_eq_left hle]

theorem Raised.trans (h : Raised m s s') (h' : Raised n s' s'') : Raised (m + n) s s'' := by
  refine ⟨fun hle => ?_, h'.optionsEnded.trans h.optionsEnded⟩
  have hm := h.verbose hle
  have hn := h'.verbose (by omega)
  omega

theorem raised_assign {option : ValueOption} {v : String} (h : s.assign option v = .ok s') :
    Raised 0 s s' := by
  cases assign_eq_ok_iff.1 h with
  | config => exact raised_zero rfl rfl
  | padding => exact raised_zero rfl rfl
  | validation => exact raised_zero rfl rfl
  | format => exact raised_zero rfl rfl

theorem raised_settle (h : s.settle = .ok s') : Raised 0 s s' := by
  unfold settle at h
  split at h
  · obtain rfl := Except.ok.inj h
    exact raised_zero rfl rfl
  · exact nomatch h
  · have hassign := raised_assign h
    exact ⟨hassign.verbose, hassign.optionsEnded⟩

/-- A flag that lets reading go on is a raise. -/
theorem raised_flag {f : Flag} (h : s.flag f = .ok s') : f = .verbose ∧ Raised 1 s s' := by
  obtain ⟨t, ht, h⟩ := exists_of_bind_eq_ok h
  have hsettle := raised_settle ht
  cases f with
  | verbose =>
    obtain rfl := Except.ok.inj h
    refine ⟨rfl, fun hle => ?_, hsettle.optionsEnded⟩
    have ht := hsettle.verbose hle
    show min (t.verbose + 1) maxVerbose = _
    omega
  | help => exact nomatch h
  | version => exact nomatch h

theorem raised_attached {option : ValueOption} {v : List Char}
    (h : s.attached option v = .ok s') : Raised 0 s s' := by
  obtain ⟨t, ht, h⟩ := exists_of_bind_eq_ok h
  exact (raised_settle ht).trans (raised_assign h)

theorem raised_await {option : ValueOption} (h : s.await option = .ok s') : Raised 0 s s' := by
  obtain ⟨t, ht, h⟩ := exists_of_bind_eq_ok h
  have hsettle := raised_settle ht
  obtain rfl := Except.ok.inj h
  exact ⟨hsettle.verbose, hsettle.optionsEnded⟩

theorem raised_plain {arg : String} (h : s.plain arg = .ok s') : Raised 0 s s' := by
  unfold plain at h
  split at h
  · obtain rfl := Except.ok.inj h
    exact raised_zero rfl rfl
  · split at h
    · exact nomatch h
    · obtain ⟨t, ht, h⟩ := exists_of_bind_eq_ok h
      have hsettle := raised_settle ht
      obtain rfl := Except.ok.inj h
      exact ⟨hsettle.verbose, hsettle.optionsEnded⟩

/-- Of the long options one asks for a raise. -/
theorem longFlag?_eq_verbose_iff {name : List Char} :
    longFlag? name = some .verbose ↔ name = "verbose".toList := by
  constructor
  · intro h
    unfold longFlag? at h
    split at h
    · assumption
    · split at h
      · exact nomatch h
      · split at h
        · exact nomatch h
        · exact nomatch h
  · rintro rfl
    decide

/-- Of the letters one does. -/
theorem shortFlag?_eq_verbose_iff {letter : Char} :
    shortFlag? letter = some .verbose ↔ letter = 'v' := by
  constructor
  · intro h
    unfold shortFlag? at h
    split at h
    · assumption
    · split at h
      · exact nomatch h
      · split at h
        · exact nomatch h
        · exact nomatch h
  · rintro rfl
    decide

theorem raised_long {text : List Char} (h : s.long text = .ok s') :
    Raised (if text = "verbose".toList then 1 else 0) s s' := by
  have hplain : ∀ option, longOption? (text.takeWhile (· != '=')) = some option →
      text ≠ "verbose".toList := by
    rintro option hoption rfl
    have hnone : longOption? ("verbose".toList.takeWhile (· != '=')) = none := by decide
    rw [hnone] at hoption
    exact nomatch hoption
  unfold long at h
  simp only at h
  split at h
  · next option _ _ hoption _ =>
    rw [if_neg (hplain option hoption)]
    exact raised_attached h
  · next option hoption _ =>
    rw [if_neg (hplain option hoption)]
    exact raised_await h
  · exact nomatch h
  · next f _ hflag hrest =>
    obtain ⟨rfl, hraised⟩ := raised_flag h
    have hwhole : text.takeWhile (· != '=') = text := by
      have happend := List.takeWhile_append_dropWhile (p := (· != '=')) (l := text)
      rw [hrest, List.append_nil] at happend
      exact happend
    rw [hwhole, longFlag?_eq_verbose_iff] at hflag
    rw [if_pos hflag]
    exact hraised
  · exact nomatch h

theorem lettersRaises_of_option {letter : Char} {option : ValueOption}
    (h : shortOption? letter = some option) (rest : List Char) :
    lettersRaises (letter :: rest) = 0 := by
  simp [lettersRaises, h]

theorem lettersRaises_raise (rest : List Char) :
    lettersRaises ('v' :: rest) = 1 + lettersRaises rest := by
  have hv : (shortOption? 'v').isNone = true := by decide
  unfold lettersRaises
  rw [List.takeWhile_cons, if_pos hv, List.count_cons_self, Nat.add_comm]

/-- **Letters are counted up to the value that ends them.** -/
theorem raised_short {letters : List Char} (h : s.short letters = .ok s') :
    Raised (lettersRaises letters) s s' := by
  induction letters generalizing s with
  | nil =>
    obtain rfl := Except.ok.inj h
    exact raised_zero rfl rfl
  | cons letter rest ih =>
    unfold short at h
    split at h
    · next hoption =>
      rw [lettersRaises_of_option hoption]
      exact raised_await h
    · next hoption =>
      rw [lettersRaises_of_option hoption]
      exact raised_attached h
    · next hoption _ _ =>
      rw [lettersRaises_of_option hoption]
      exact raised_attached h
    · next hflag =>
      obtain ⟨t, ht, hrest⟩ := exists_of_bind_eq_ok h
      obtain ⟨rfl, hraised⟩ := raised_flag ht
      rw [shortFlag?_eq_verbose_iff] at hflag
      rw [hflag, lettersRaises_raise]
      exact hraised.trans (ih hrest)
    · exact nomatch h

/-! ## The whole command line -/

/-- **One argument is counted by itself**, until options end. -/
theorem raised_step {arg : String} (h : s.step arg = .ok s') (hopen : s.optionsEnded = false)
    (harg : arg ≠ "--") : Raised (argumentRaises arg) s s' := by
  have hne : arg.toList ≠ ['-', '-'] := fun heq => harg (String.toList_inj.1 heq)
  unfold step at h
  rw [if_neg (by rw [hopen]; exact Bool.false_ne_true)] at h
  unfold argumentRaises
  split at h
  · next heq => exact absurd heq hne
  · next text _ heq =>
    rw [heq]
    exact raised_long h
  · next letter rest _ hletter heq =>
    rw [heq]
    split
    · next heq' => exact absurd (List.cons.inj (List.cons.inj heq').2).1 hletter
    · next heq' =>
      obtain ⟨rfl, rfl⟩ := List.cons.inj (List.cons.inj heq').2
      exact raised_short h
    · next hnot => exact absurd rfl (hnot letter rest)
  · next hbare hlong hshort =>
    split
    · next name heq => exact absurd heq (hlong name)
    · next letter rest _ heq => exact absurd heq (hshort letter rest)
    · exact raised_plain h

/-- Where options have ended nothing is counted any more. -/
theorem raised_foldlM_of_ended {args : List String} (h : args.foldlM step s = .ok s')
    (hended : s.optionsEnded = true) : Raised 0 s s' := by
  induction args generalizing s with
  | nil =>
    obtain rfl := Except.ok.inj h
    exact raised_zero rfl rfl
  | cons arg args ih =>
    rw [List.foldlM_cons] at h
    obtain ⟨t, ht, h⟩ := exists_of_bind_eq_ok h
    rw [step, if_pos hended] at ht
    have hplain := raised_plain ht
    exact hplain.trans (ih h (hplain.optionsEnded.trans hended))

/-- **Arguments are counted one by one**, up to the one that ends options. -/
theorem verbose_of_foldlM {args : List String} (h : args.foldlM step s = .ok s')
    (hopen : s.optionsEnded = false) (hle : s.verbose ≤ maxVerbose) :
    s'.verbose = min (s.verbose + raises args) maxVerbose := by
  induction args generalizing s with
  | nil =>
    obtain rfl := Except.ok.inj h
    exact (Nat.min_eq_left hle).symm
  | cons arg args ih =>
    rw [List.foldlM_cons] at h
    obtain ⟨t, ht, h⟩ := exists_of_bind_eq_ok h
    by_cases harg : arg = "--"
    · subst harg
      have hstep : s.step "--" = .ok { s with optionsEnded := true } := by
        rw [step, if_neg (by rw [hopen]; exact Bool.false_ne_true)]
        rfl
      obtain rfl := Except.ok.inj (hstep.symm.trans ht)
      have hnone : raises ("--" :: args) = 0 := rfl
      rw [hnone]
      exact (raised_foldlM_of_ended h rfl).verbose hle
    · have hone := raised_step ht hopen harg
      have hverbose := hone.verbose hle
      have hrest := ih h (hone.optionsEnded.trans hopen) (by omega)
      have hsum : raises (arg :: args) = argumentRaises arg + raises args := by
        unfold raises
        rw [List.takeWhile_cons, if_pos (bne_iff_ne.2 harg), List.foldr_cons]
      omega

end Scan

/-- **Reading a command line counts its raises**, up to the greatest number
that is counted. -/
theorem verbose_of_parse {args : List String} {a : Arguments} (h : parse args = .ok a) :
    a.verbose = min (raises args) maxVerbose := by
  obtain ⟨s, hs, h⟩ := exists_of_bind_eq_ok h
  obtain ⟨t, ht, h⟩ := exists_of_bind_eq_ok h
  have hscan : s.verbose = min (0 + raises args) maxVerbose :=
    Scan.verbose_of_foldlM hs rfl (Nat.zero_le _)
  have hsettle := (Scan.raised_settle ht).verbose (by omega)
  split at h
  · exact nomatch h
  · obtain rfl := Except.ok.inj h
    show t.verbose = _
    omega

end CommandLine

end CallDescriptor
