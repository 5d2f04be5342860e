import Mathlib.Data.List.SplitBy
import CallDescriptor.Proofs.Filler
/-!
# Legacy padding by runs of `f`

Legacy padding deletes pairs from the left, one after the other. What it
leaves is said here without an order of deletion: of each maximal run of
`f` one digit stays if the run is of odd length, and none otherwise
(`map_toLower_reduceRuns`). So nothing is left to delete, and slots that
legacy padding gives, written with filler behind them, are given again by
either padding (`slotBytes_legacy_reduceRuns`).
-/

namespace CallDescriptor

/-! ## Runs -/

/-- Whether `c` is the digit that filler is made of, in either case. -/
def isFillerDigit (c : Char) : Bool := c == 'f' || c == 'F'

/-- What stays of a run: of filler digits one or none, by the parity of their
number, and all of others. -/
def reducedRun (run : List Char) : List Char :=
  if run.all isFillerDigit then List.replicate (run.length % 2) 'f' else run

/-- The text with each maximal run of filler digits reduced. -/
def reduceRuns (text : List Char) : List Char :=
  (text.splitBy fun c d => isFillerDigit c == isFillerDigit d).flatMap reducedRun

variable {cs run : List Char} {c : Char}

theorem toLower_eq_f_iff : c.toLower = 'f' ↔ isFillerDigit c = true := by
  have hf : 'f'.toNat = 102 := rfl
  have hF : 'F'.toNat = 70 := rfl
  rw [isFillerDigit, Bool.or_eq_true, beq_iff_eq, beq_iff_eq, ← Char.toNat_inj, ← Char.toNat_inj,
    ← Char.toNat_inj, Text.toNat_toLower, hf, hF]
  split <;> omega

theorem map_toLower_of_all (h : ∀ c ∈ run, isFillerDigit c = true) :
    run.map Char.toLower = List.replicate run.length 'f' := by
  refine List.eq_replicate_iff.2 ⟨List.length_map _, fun c hc => ?_⟩
  obtain ⟨d, hd, rfl⟩ := List.mem_map.1 hc
  exact toLower_eq_f_iff.2 (h d hd)

theorem reducedRun_of_none (h : ∀ c ∈ run, isFillerDigit c = false) : reducedRun run = run := by
  cases run with
  | nil => rfl
  | cons c run =>
    have hhead : isFillerDigit c = false := h c List.mem_cons_self
    rw [reducedRun, List.all_cons, hhead, Bool.false_and, if_neg Bool.false_ne_true]

/-- In a run either all digits are filler digits or none is. -/
theorem all_or_none_of_isChain
    (h : run.IsChain fun c d => (isFillerDigit c == isFillerDigit d) = true) :
    (∀ c ∈ run, isFillerDigit c = true) ∨ ∀ c ∈ run, isFillerDigit c = false := by
  induction run with
  | nil => exact .inl nofun
  | cons c run ih =>
    cases run with
    | nil =>
      rw [List.forall_mem_singleton, List.forall_mem_singleton, ← Bool.not_eq_true]
      exact em _
    | cons d run =>
      obtain ⟨hcd, hrest⟩ := List.isChain_cons_cons.1 h
      rw [beq_iff_eq] at hcd
      refine (ih hrest).imp (fun hall => ?_) fun hnone => ?_
      · exact List.forall_mem_cons.2 ⟨hcd.trans (hall d List.mem_cons_self), hall⟩
      · exact List.forall_mem_cons.2 ⟨hcd.trans (hnone d List.mem_cons_self), hnone⟩

/-! ## Deleting pairs run by run -/

/-- Of a run of `f` the last digit stays if it has no partner. -/
theorem dropPairs_replicate_append (n : Nat) (h : cs.head? ≠ some 'f') :
    dropPairs (List.replicate n 'f' ++ cs) = List.replicate (n % 2) 'f' ++ dropPairs cs := by
  induction n using Nat.twoStepInduction with
  | zero => rfl
  | one => exact dropPairs_cons fun _ => h
  | more n ih _ =>
    rw [List.replicate_succ, List.replicate_succ, List.cons_append, List.cons_append, dropPairs,
      ih, Nat.add_mod_right]

/-- Other digits stay. -/
theorem dropPairs_append_of_none (h : ∀ c ∈ run, c ≠ 'f') :
    dropPairs (run ++ cs) = run ++ dropPairs cs := by
  induction run with
  | nil => rfl
  | cons c run ih =>
    rw [List.forall_mem_cons] at h
    rw [List.cons_append, dropPairs_cons fun hc => absurd hc h.1, ih h.2, List.cons_append]

/-- **Runs are reduced one by one**, since a digit of another kind stands
between any two of filler digits. -/
theorem map_toLower_flatMap_reducedRun {runs : List (List Char)}
    (hrun : ∀ run ∈ runs, run.IsChain fun c d => (isFillerDigit c == isFillerDigit d) = true)
    (hborder : runs.IsChain fun r s =>
      ∃ hr hs, (isFillerDigit (r.getLast hr) == isFillerDigit (s.head hs)) = false) :
    (runs.flatMap reducedRun).map Char.toLower = dropPairs (runs.flatten.map Char.toLower) := by
  induction runs with
  | nil => rfl
  | cons run runs ih =>
    rw [List.forall_mem_cons] at hrun
    rw [List.flatMap_cons, List.flatten_cons, List.map_append, List.map_append,
      ih hrun.2 hborder.tail]
    rcases all_or_none_of_isChain hrun.1 with hall | hnone
    · have hnext : (runs.flatten.map Char.toLower).head? ≠ some 'f' := by
        cases runs with
        | nil => exact nofun
        | cons next runs =>
          obtain ⟨hr, hs, hdiffer⟩ := (List.isChain_cons_cons.1 hborder).1
          rw [hall _ (List.getLast_mem hr), beq_eq_false_iff_ne] at hdiffer
          obtain ⟨d, next, rfl⟩ := List.exists_cons_of_ne_nil hs
          rw [List.flatten_cons, List.cons_append, List.map_cons, List.head?_cons, ne_eq,
            Option.some.injEq, toLower_eq_f_iff]
          exact hdiffer.symm
      rw [reducedRun, if_pos (List.all_eq_true.2 hall), List.map_replicate, map_toLower_of_all hall,
        dropPairs_replicate_append _ hnext]
      rfl
    · have hkeep : ∀ c ∈ run.map Char.toLower, c ≠ 'f' := fun c hc => by
        obtain ⟨d, hd, rfl⟩ := List.mem_map.1 hc
        rw [ne_eq, toLower_eq_f_iff, hnone d hd]
        exact Bool.false_ne_true
      rw [reducedRun_of_none hnone, dropPairs_append_of_none hkeep]

/-- **Deleting pairs reduces runs**, the case of digits apart. -/
theorem map_toLower_reduceRuns (text : List Char) :
    (reduceRuns text).map Char.toLower = dropPairs (text.map Char.toLower) := by
  have h := map_toLower_flatMap_reducedRun
    (fun _ hrun => List.isChain_of_mem_splitBy hrun)
    (List.isChain_getLast_head_splitBy (fun c d => isFillerDigit c == isFillerDigit d) text)
  rwa [List.flatten_splitBy] at h

/-! ## What legacy padding leaves -/

theorem head?_dropPairs (h : cs.head? ≠ some 'f') : (dropPairs cs).head? = cs.head? := by
  cases cs with
  | nil => rfl
  | cons c cs =>
    have hc : c ≠ 'f' := fun hc => h (congrArg some hc)
    rw [dropPairs_cons fun heq => absurd heq hc, List.head?_cons, List.head?_cons]

/-- **No pair is left**, since the digit behind one that stays has been looked
at already. -/
theorem not_pair_infix_dropPairs (cs : List Char) : ¬ ['f', 'f'] <:+: dropPairs cs := by
  induction cs using dropPairs.induct with
  | case1 rest ih =>
    rw [dropPairs]
    exact ih
  | case2 c rest hpair ih =>
    have hnext : c = 'f' → rest.head? ≠ some 'f' := fun hc hrest =>
      hpair _ hc (List.eq_cons_of_mem_head? hrest)
    rw [dropPairs_cons hnext, List.infix_cons_iff, not_or]
    refine ⟨fun hprefix => ?_, ih⟩
    obtain ⟨hc, hrest⟩ := List.cons_prefix_cons.1 hprefix
    obtain ⟨tail, htail⟩ := hrest
    have hhead : (dropPairs rest).head? = some 'f' := by rw [← htail]; rfl
    rw [head?_dropPairs (hnext hc.symm)] at hhead
    exact hnext hc.symm hhead
  | case3 => exact fun h => absurd (List.infix_nil.1 h) (List.cons_ne_nil _ _)

/-- Bytes whose digits hold no pair are no filler. -/
theorem filler_not_mem {bs : List UInt8} (h : ¬ ['f', 'f'] <:+: bs.flatMap Hex.ofByte) :
    filler ∉ bs := by
  intro hmem
  obtain ⟨before, after, rfl⟩ := List.append_of_mem hmem
  refine h ⟨before.flatMap Hex.ofByte, after.flatMap Hex.ofByte, ?_⟩
  rw [List.flatMap_append, List.flatMap_cons, List.append_assoc]
  rfl

/-- **Slots that hold no pair are read back**, by either padding and from any
length of filler. -/
theorem slotBytes_of_not_pair {bs : List UInt8} (h : ¬ ['f', 'f'] <:+: bs.flatMap Hex.ofByte)
    (padding : Padding) (j : Nat) :
    slotBytes padding (bs.flatMap Hex.ofByte ++ List.replicate (2 * j) 'f') = .ok bs := by
  have hwritten : bs.flatMap Hex.ofByte ++ List.replicate (2 * j) 'f' =
      (bs ++ List.replicate j filler).flatMap Hex.ofByte := by
    rw [List.flatMap_append, flatMap_ofByte_replicate_filler]
  have heven : ((bs ++ List.replicate j filler).flatMap Hex.ofByte).length % 2 = 0 := by
    rw [Hex.length_flatMap_ofByte, Nat.mul_mod_right]
  rw [hwritten, slotBytes_eq,
    blameFirst_of_forall fun _ => Hex.isHexDigit_of_mem_flatMap_ofByte, if_pos heven]
  congr 1
  cases padding with
  | trailing =>
    have hlast : bs.getLast? ≠ some filler := fun hlast =>
      filler_not_mem h (List.mem_of_getLast? hlast)
    rw [slotsLeft, Hex.octets_flatMap_ofByte, dropFiller_append_replicate,
      dropFiller_eq_self hlast]
  | legacy =>
    rw [slotsLeft, Hex.map_toLower_flatMap_ofByte, ← hwritten, dropPairs_append_replicate,
      dropPairs_eq_self h, Hex.octets_flatMap_ofByte]

/-- **Legacy padding reduces runs.** Digits of even number always give slots:
what the text spells once each maximal run of `f`, in either case, has been
reduced to one digit or none by its parity. So no two adjacent digits of the
slots are both `f`, no slot is the filler byte and there are at most half as
many as digits; and the slots, written with any amount of filler behind them,
are given again by either padding. -/
theorem slotBytes_legacy_reduceRuns {text : List Char}
    (hdigits : ∀ c ∈ text, Text.isHexDigit c = true) (heven : text.length % 2 = 0) :
    ∃ bs, slotBytes .legacy text = .ok bs ∧
      (reduceRuns text).length % 2 = 0 ∧ bs = Hex.octets (reduceRuns text) ∧
      ¬ ['f', 'f'] <:+: bs.flatMap Hex.ofByte ∧ 0xff ∉ bs ∧ bs.length ≤ text.length / 2 ∧
      ∀ padding j,
        slotBytes padding (bs.flatMap Hex.ofByte ++ List.replicate (2 * j) 'f') = .ok bs := by
  have hreduced := map_toLower_reduceRuns text
  have hkept : ∀ c ∈ reduceRuns text, Text.isHexDigit c = true := fun c hc => by
    have hmem := List.mem_map_of_mem (f := Char.toLower) hc
    rw [hreduced] at hmem
    obtain ⟨d, hd, heq⟩ := List.mem_map.1 ((dropPairs_sublist _).subset hmem)
    rw [← Text.isHexDigit_toLower, ← heq, Text.isHexDigit_toLower]
    exact hdigits d hd
  have hparity : (reduceRuns text).length % 2 = 0 := by
    rw [← List.length_map (f := Char.toLower), hreduced, length_dropPairs_mod_two, List.length_map,
      heven]
  have hslots : slotsLeft .legacy text = Hex.octets (reduceRuns text) := by
    rw [slotsLeft, ← hreduced, Hex.octets_map_toLower hkept]
  have hpair : ¬ ['f', 'f'] <:+: (Hex.octets (reduceRuns text)).flatMap Hex.ofByte := by
    rw [Hex.flatMap_ofByte_octets hkept hparity, hreduced]
    exact not_pair_infix_dropPairs _
  refine ⟨_, ?_, hparity, rfl, hpair, filler_not_mem hpair, ?_, slotBytes_of_not_pair hpair⟩
  · rw [slotBytes_eq, blameFirst_of_forall hdigits, if_pos heven, hslots]
  · rw [← hslots]
    exact length_slotsLeft_le .legacy text

/-- Runs of three and four, one of them across bytes, and mixed case. -/
theorem slotBytes_legacy_reduceRuns_overlapping :
    (∀ c ∈ "0fFf1a0fFfF2".toList, Text.isHexDigit c = true) ∧
      "0fFf1a0fFfF2".toList.length % 2 = 0 ∧
      ∃ bs, slotBytes .legacy "0fFf1a0fFfF2".toList = .ok bs ∧ bs = [0x0f, 0x1a, 0x02] := by
  have hdigits : ∀ c ∈ "0fFf1a0fFfF2".toList, Text.isHexDigit c = true :=
    List.all_eq_true.1 (by decide)
  have heven : "0fFf1a0fFfF2".toList.length % 2 = 0 := by decide
  obtain ⟨bs, hbs, -, hoctets, -⟩ := slotBytes_legacy_reduceRuns hdigits heven
  refine ⟨hdigits, heven, bs, hbs, ?_⟩
  rw [hoctets]
  decide +kernel

end CallDescriptor
