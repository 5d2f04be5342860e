import CallDescriptor.Proofs.Filler.Runs
/-!
# Where the two paddings agree

Trailing padding drops whole bytes from the right end of a trailer, legacy
padding pairs of digits wherever they stand. They refuse the same trailers
with the same error (`slotBytes_eq_error_iff`), since the digits are looked
at before any is dropped. On the others legacy padding drops what trailing
padding does and every pair that is left in front of it, so the two agree
just where none is left (`slotBytes_paddings_agree_iff`).
-/

namespace CallDescriptor

/-! ## What is refused -/

/-- Why a trailer is refused, with either padding. -/
inductive TrailerFault (text : List Char) : DecodeError → Prop
  /-- The first character that is no digit, wherever else there is one. -/
  | invalidDigit {i : Nat} {c : Char} (hc : text[i]? = some c) (hbad : Text.isHexDigit c = false)
      (hbefore : ∀ j d, j < i → text[j]? = some d → Text.isHexDigit d = true) :
      TrailerFault text (.invalidDigit (22 + i) c)
  /-- All are digits, and the last has no partner. -/
  | danglingDigit (hdigits : ∀ c ∈ text, Text.isHexDigit c = true)
      (hodd : text.length % 2 = 1) :
      TrailerFault text (.danglingDigit (22 + text.length - 1))

variable {text : List Char} {padding : Padding}

/-- **Either padding refuses a trailer for its fault.** -/
theorem slotBytes_eq_error_iff {e : DecodeError} :
    slotBytes padding text = .error e ↔ TrailerFault text e := by
  rw [slotBytes_eq, blameFirst]
  split
  · next i c hfound =>
    obtain ⟨k, rfl, hc, hbad, hbefore⟩ := Text.firstFailing_eq_some_iff.1 hfound
    constructor
    · intro h
      obtain rfl := Except.error.inj h
      exact .invalidDigit hc hbad hbefore
    · intro h
      cases h with
      | @invalidDigit i d hd hbad' hbefore' =>
        -- neither of two first bad digits stands before the other
        rcases Nat.lt_trichotomy k i with hlt | rfl | hlt
        · rw [hbefore' k c hlt hc] at hbad
          exact absurd hbad (by decide)
        · rw [Option.some.inj (hc.symm.trans hd)]
          rfl
        · rw [hbefore i d hlt hd] at hbad'
          exact absurd hbad' (by decide)
      | danglingDigit hdigits =>
        rw [hdigits c (List.mem_of_getElem? hc)] at hbad
        exact absurd hbad (by decide)
  · next hnone =>
    have hdigits := (Text.firstFailing_eq_none_iff _).1 hnone
    constructor
    · intro h
      split at h
      · cases h
      · next hodd =>
        obtain rfl := Except.error.inj h
        exact .danglingDigit hdigits (by omega)
    · intro h
      cases h with
      | invalidDigit hc hbad =>
        rw [hdigits _ (List.mem_of_getElem? hc)] at hbad
        exact absurd hbad (by decide)
      | danglingDigit _ hodd =>
        rw [if_neg (by omega)]
        rfl

/-- And gives slots for every other. -/
theorem slotBytes_eq_ok_iff {bs : List UInt8} :
    slotBytes padding text = .ok bs ↔
      (∀ c ∈ text, Text.isHexDigit c = true) ∧ text.length % 2 = 0 ∧
        slotsLeft padding text = bs := by
  rw [slotBytes_eq, blameFirst_eq_ok_iff]
  refine and_congr_right fun _ => ?_
  split
  · next heven => rw [Except.ok.injEq, and_iff_right heven]
  · next hodd => exact ⟨nofun, fun h => absurd h.1 hodd⟩

/-! ## Pairs at the right end -/

/-- The digits without the run of pairs of filler digits at their right end.
A pair is what makes a byte, counted from the left: it goes if both its
digits are filler digits and nothing behind it stays. -/
def withoutFillerPairs : List Char → List Char
  | hi :: lo :: rest =>
    if withoutFillerPairs rest = [] ∧ isFillerDigit hi = true ∧ isFillerDigit lo = true then []
    else hi :: lo :: withoutFillerPairs rest
  | cs => cs

/-- The run that goes is one of pairs. -/
theorem exists_map_toLower_withoutFillerPairs (cs : List Char) :
    ∃ j, cs.map Char.toLower =
      (withoutFillerPairs cs).map Char.toLower ++ List.replicate (2 * j) 'f' := by
  induction cs using Hex.octets.induct with
  | case1 => exact ⟨0, rfl⟩
  | case2 lone => exact ⟨0, rfl⟩
  | case3 hi lo rest ih =>
    obtain ⟨j, hj⟩ := ih
    rw [withoutFillerPairs]
    split
    · next hall =>
      obtain ⟨hnil, hhi, hlo⟩ := hall
      refine ⟨j + 1, ?_⟩
      rw [hnil] at hj
      rw [List.map_cons, List.map_cons, hj, toLower_eq_f_iff.2 hhi, toLower_eq_f_iff.2 hlo,
        show 2 * (j + 1) = 2 * j + 1 + 1 by omega, List.replicate_succ, List.replicate_succ]
      rfl
    · refine ⟨j, ?_⟩
      rw [List.map_cons, List.map_cons, hj]
      rfl

theorem withoutFillerPairs_sublist (cs : List Char) : (withoutFillerPairs cs).Sublist cs := by
  induction cs using Hex.octets.induct with
  | case1 => exact List.Sublist.refl _
  | case2 lone => exact List.Sublist.refl _
  | case3 hi lo rest ih =>
    rw [withoutFillerPairs]
    split
    · exact List.nil_sublist _
    · exact (ih.cons_cons _).cons_cons _

theorem length_withoutFillerPairs_mod_two (cs : List Char) :
    (withoutFillerPairs cs).length % 2 = cs.length % 2 := by
  obtain ⟨j, hj⟩ := exists_map_toLower_withoutFillerPairs cs
  have hlen := congrArg List.length hj
  rw [List.length_append, List.length_map, List.length_map, List.length_replicate] at hlen
  omega

theorem dropFiller_cons (b : UInt8) (bs : List UInt8) :
    dropFiller (b :: bs) =
      if dropFiller bs = [] ∧ b = filler then [] else b :: dropFiller bs := by
  unfold dropFiller
  rw [List.reverse_cons, List.dropWhile_append]
  by_cases hnil : bs.reverse.dropWhile (· == filler) = []
  · rw [hnil, List.isEmpty_nil, if_pos rfl, List.reverse_nil]
    by_cases hb : b = filler
    · rw [if_pos ⟨rfl, hb⟩, List.dropWhile_cons, if_pos (beq_iff_eq.2 hb)]
      rfl
    · rw [if_neg fun h => hb h.2, List.dropWhile_cons, if_neg (mt beq_iff_eq.1 hb)]
      rfl
  · rw [if_neg (mt List.isEmpty_iff.1 hnil),
      if_neg fun h => hnil (List.reverse_eq_nil_iff.1 h.1), List.reverse_append]
    rfl

/-- Two digits spell the filler byte just if both are filler digits. -/
theorem octet_eq_filler_iff {hi lo : Char} (hhi : Text.isHexDigit hi = true)
    (hlo : Text.isHexDigit lo = true) :
    UInt8.ofNat (16 * Text.digitValue hi + Text.digitValue lo) = filler ↔
      isFillerDigit hi = true ∧ isFillerDigit lo = true := by
  have hvalue {c : Char} (hc : Text.isHexDigit c = true) :
      isFillerDigit c = true ↔ Text.digitValue c = 15 :=
    Text.of_isHexDigit (P := fun d => isFillerDigit d = true ↔ Text.digitValue d = 15)
      (by decide) hc
  have hhi' := Text.digitValue_lt hhi
  have hlo' := Text.digitValue_lt hlo
  have hfiller : filler.toNat = 255 := rfl
  rw [hvalue hhi, hvalue hlo, ← UInt8.toNat_inj, hfiller,
    UInt8.toNat_ofNat_of_lt' (by rw [UInt8.size]; omega)]
  omega

/-- **Pairs at the right end are the filler that trailing padding drops.** -/
theorem octets_withoutFillerPairs {cs : List Char} (h : ∀ c ∈ cs, Text.isHexDigit c = true)
    (heven : cs.length % 2 = 0) :
    Hex.octets (withoutFillerPairs cs) = dropFiller (Hex.octets cs) := by
  induction cs using Hex.octets.induct with
  | case1 => rfl
  | case2 lone => rfl
  | case3 hi lo rest ih =>
    rw [List.forall_mem_cons, List.forall_mem_cons] at h
    obtain ⟨hhi, hlo, hrest⟩ := h
    rw [List.length_cons, List.length_cons] at heven
    replace ih := ih hrest (by omega)
    have hparity := length_withoutFillerPairs_mod_two rest
    -- digits of even number spell no byte only if there are none
    have hnil : withoutFillerPairs rest = [] ↔ dropFiller (Hex.octets rest) = [] := by
      rw [← ih, ← List.length_eq_zero_iff, ← List.length_eq_zero_iff, Hex.length_octets]
      omega
    have hgoes := and_congr hnil (octet_eq_filler_iff hhi hlo).symm
    rw [withoutFillerPairs, Hex.octets_cons_cons, dropFiller_cons]
    by_cases hpair : withoutFillerPairs rest = [] ∧
        isFillerDigit hi = true ∧ isFillerDigit lo = true
    · rw [if_pos hpair, if_pos (hgoes.1 hpair)]
      rfl
    · rw [if_neg hpair, if_neg (mt hgoes.2 hpair), Hex.octets_cons_cons, ih]

/-- **What legacy padding leaves** once those pairs are gone. -/
theorem slotsLeft_legacy_eq (text : List Char) :
    slotsLeft .legacy text =
      Hex.octets (dropPairs ((withoutFillerPairs text).map Char.toLower)) := by
  obtain ⟨j, hj⟩ := exists_map_toLower_withoutFillerPairs text
  rw [slotsLeft, hj, dropPairs_append_replicate]

/-- **The paddings agree on trailers without pairs in front of the filler.**
Each refuses a trailer for the same fault: the first character that is no
digit, or else a last digit without a partner. Of a trailer that has none both
give slots, and the same slots just if no two adjacent digits are both `f`,
in either case, once the pairs at the right end are gone; if there are such
digits, legacy padding gives fewer slots. -/
theorem slotBytes_paddings_agree_iff (text : List Char) :
    (∀ e, slotBytes .trailing text = .error e ↔ slotBytes .legacy text = .error e) ∧
      (∀ padding e, slotBytes padding text = .error e ↔ TrailerFault text e) ∧
      ∀ bs bs', slotBytes .trailing text = .ok bs → slotBytes .legacy text = .ok bs' →
        (bs = bs' ↔ ¬ ['f', 'f'] <:+: (withoutFillerPairs text).map Char.toLower) ∧
          (bs ≠ bs' → bs'.length < bs.length) := by
  refine ⟨fun e => slotBytes_eq_error_iff.trans slotBytes_eq_error_iff.symm,
    fun padding e => slotBytes_eq_error_iff, fun bs bs' htrailing hlegacy => ?_⟩
  obtain ⟨hdigits, heven, rfl⟩ := slotBytes_eq_ok_iff.1 htrailing
  obtain ⟨-, -, rfl⟩ := slotBytes_eq_ok_iff.1 hlegacy
  have hkept : ∀ c ∈ withoutFillerPairs text, Text.isHexDigit c = true :=
    fun c hc => hdigits c ((withoutFillerPairs_sublist text).subset hc)
  have hparity := length_withoutFillerPairs_mod_two text
  have hsame : slotsLeft .trailing text = Hex.octets (withoutFillerPairs text) :=
    (octets_withoutFillerPairs hdigits heven).symm
  rw [hsame, slotsLeft_legacy_eq]
  generalize withoutFillerPairs text = kept at hkept hparity
  by_cases hpair : ['f', 'f'] <:+: kept.map Char.toLower
  · -- a pair that goes takes a slot with it
    have hlt : (Hex.octets (dropPairs (kept.map Char.toLower))).length <
        (Hex.octets kept).length := by
      have hlt := length_dropPairs_lt hpair
      have hdropped := length_dropPairs_mod_two (kept.map Char.toLower)
      rw [List.length_map] at hlt hdropped
      rw [Hex.length_octets, Hex.length_octets]
      omega
    exact ⟨⟨fun heq => absurd (congrArg List.length heq) (by omega),
      fun hnot => absurd hpair hnot⟩, fun _ => hlt⟩
  · have heq : Hex.octets kept = Hex.octets (dropPairs (kept.map Char.toLower)) := by
      rw [dropPairs_eq_self hpair, Hex.octets_map_toLower hkept]
    exact ⟨⟨fun _ => hpair, fun _ => heq⟩, fun hne => absurd heq hne⟩

/-- A pair across two bytes, in front of filler in both cases. -/
theorem slotBytes_paddings_agree_iff_across_bytes :
    slotBytes .trailing "010FF1fFFf".toList = .ok [0x01, 0x0f, 0xf1] ∧
      slotBytes .legacy "010FF1fFFf".toList = .ok [0x01, 0x01] ∧
      (([0x01, 0x0f, 0xf1] : List UInt8) = [0x01, 0x01] ↔
        ¬ ['f', 'f'] <:+: (withoutFillerPairs "010FF1fFFf".toList).map Char.toLower) ∧
      ([0x01, 0x01] : List UInt8).length < ([0x01, 0x0f, 0xf1] : List UInt8).length := by
  have htrailing : slotBytes .trailing "010FF1fFFf".toList = .ok [0x01, 0x0f, 0xf1] := by
    decide +kernel
  have hlegacy : slotBytes .legacy "010FF1fFFf".toList = .ok [0x01, 0x01] := by
    decide +kernel
  have hagree := (slotBytes_paddings_agree_iff "010FF1fFFf".toList).2.2 _ _ htrailing hlegacy
  exact ⟨htrailing, hlegacy, hagree.1, hagree.2 (by decide)⟩

end CallDescriptor
