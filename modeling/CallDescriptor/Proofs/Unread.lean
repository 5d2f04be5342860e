import CallDescriptor.Proofs.Decoding
/-!
# What decoding does not look at

A text is decoded by the call type that its one digit stands for and by
the number its other digits spell. So the marker, the first digit of the
call-type byte and the case of digits are free, and so is the whole
trailer where no param needs it. `SameOutcome` is what two such texts
have in common: the outcome, but for the case of a character that is
blamed. Legacy padding finds its pairs of `f` in the text and not in
bytes, which is the one place where case could have made a difference.
-/

namespace CallDescriptor

/-- Two outcomes that are equal, but for the case of a character that
both blame at one offset. -/
inductive SameOutcome {α : Type} : Except DecodeError α → Except DecodeError α → Prop
  /-- Nothing differs. -/
  | refl (x : Except DecodeError α) : SameOutcome x x
  /-- Only the case of the character that is blamed does. -/
  | inCase {offset : Nat} {c d : Char} (h : c.toLower = d.toLower) :
      SameOutcome (.error (.invalidDigit offset c)) (.error (.invalidDigit offset d))

variable {α : Type} {cs ds : List Char}

/-! ## Digits in two cases -/

/-- **A check of digits blames alike** in two texts that differ in case. -/
theorem SameOutcome.blameFirst {x y : Except DecodeError α} {offset : Nat}
    (hcase : cs.map Char.toLower = ds.map Char.toLower)
    (h : (∀ c ∈ cs, Text.isHexDigit c = true) → (∀ d ∈ ds, Text.isHexDigit d = true) →
      SameOutcome x y) :
    SameOutcome (blameFirst Text.isHexDigit offset cs x)
      (blameFirst Text.isHexDigit offset ds y) := by
  induction cs generalizing ds offset with
  | nil =>
    rw [List.map_nil, eq_comm, List.map_eq_nil_iff] at hcase
    subst hcase
    exact h nofun nofun
  | cons c cs ih =>
    obtain ⟨d, ds, rfl, hd, hds⟩ := List.map_eq_cons_iff.1 hcase.symm
    have hdigit : Text.isHexDigit d = Text.isHexDigit c := by
      rw [← Text.isHexDigit_toLower d, hd, Text.isHexDigit_toLower]
    rw [blameFirst_cons, blameFirst_cons, hdigit]
    by_cases hc : Text.isHexDigit c = true
    · rw [if_pos hc, if_pos hc]
      refine ih hds.symm fun hcs hds => h ?_ ?_
      · exact List.forall_mem_cons.2 ⟨hc, hcs⟩
      · exact List.forall_mem_cons.2 ⟨hdigit.trans hc, hds⟩
    · rw [if_neg hc, if_neg hc]
      exact .inCase hd.symm

theorem Text.digitsValue_congr (hcs : ∀ c ∈ cs, isHexDigit c = true)
    (hds : ∀ d ∈ ds, isHexDigit d = true)
    (hcase : cs.map Char.toLower = ds.map Char.toLower) :
    digitsValue 16 cs = digitsValue 16 ds := by
  rw [← digitsValue_map_toLower hcs, hcase, digitsValue_map_toLower hds]

/-- **The slots of a trailer do not depend on its case**, whichever way its
filler is dropped. -/
theorem slotsLeft_congr (hcs : ∀ c ∈ cs, Text.isHexDigit c = true)
    (hds : ∀ d ∈ ds, Text.isHexDigit d = true)
    (hcase : cs.map Char.toLower = ds.map Char.toLower) (padding : Padding) :
    slotsLeft padding cs = slotsLeft padding ds := by
  cases padding with
  | trailing =>
    rw [slotsLeft, slotsLeft, ← Hex.octets_map_toLower hcs, hcase, Hex.octets_map_toLower hds]
  | legacy => rw [slotsLeft, slotsLeft, hcase]

/-! ## Texts with the same numbers -/

namespace Reading

/-- Two texts that agree on all that stands in front of the trailer. -/
structure SameNumbers (cs ds : List Char) : Prop where
  callType_eq : CallType.ofDigit (cs.getD 3 '0') = CallType.ofDigit (ds.getD 3 '0')
  declared_eq : declared cs = declared ds
  bitmap_eq : bitmap cs = bitmap ds

namespace SameNumbers

variable (h : SameNumbers cs ds)
include h

theorem referenced_eq : referenced cs = referenced ds := by
  rw [referenced, h.bitmap_eq, referenced]

theorem config_eq {padding : Padding}
    (hparams : (config cs padding).params = (config ds padding).params) :
    config cs padding = config ds padding :=
  (CallConfig.mk.injEq ..).mpr
    ⟨h.callType_eq, congrArg UInt8.ofNat h.declared_eq, h.bitmap_eq, hparams⟩

/-- **The checks behind the number fields agree**, as long as the trailers
do where a param needs them. -/
theorem sameOutcome_checked
    (htrailer : referenced cs ≠ 0 →
      (trailer cs).map Char.toLower = (trailer ds).map Char.toLower)
    (options : Options) : SameOutcome (checked cs options) (checked ds options) := by
  have hreferenced := h.referenced_eq
  rw [checked, checked, ← h.declared_eq, ← hreferenced]
  by_cases hcount : options.validation = .full ∧ declared cs ≠ referenced cs
  · rw [if_pos hcount, if_pos hcount]
    exact .refl _
  · rw [if_neg hcount, if_neg hcount]
    by_cases hnone : referenced cs = 0
    · have hparams := params_config_of_referenced_eq_zero hnone options.padding
      rw [if_pos hnone, if_pos hnone, h.config_eq (hparams.trans
        (params_config_of_referenced_eq_zero (hreferenced ▸ hnone) options.padding).symm)]
      exact .refl _
    · rw [if_neg hnone, if_neg hnone]
      refine .blameFirst (htrailer hnone) fun hcs hds => ?_
      have hslots : slots cs options.padding = slots ds options.padding :=
        slotsLeft_congr hcs hds (htrailer hnone) options.padding
      have hparams : (config cs options.padding).params = (config ds options.padding).params := by
        rw [config, config, h.bitmap_eq, hslots]
      rw [h.config_eq hparams, hslots]
      exact .refl _

end SameNumbers

/-- A bitmap of zeros marks nothing. -/
theorem referenced_of_zeros (hzero : Text.span cs 6 22 = List.replicate 16 '0') :
    referenced cs = 0 := by
  rw [referenced, bitmap, hzero]
  decide

end Reading

/-! ## Texts with the same fields -/

/-- **Past the marker only digits matter**, and the trailer only to a param. -/
theorem sameOutcome_decode_of_numbers {text₁ text₂ : String}
    (hlen₁ : text₁.toList.length = descriptorLength)
    (hlen₂ : text₂.toList.length = descriptorLength)
    (hascii₁ : ∀ c ∈ text₁.toList, Text.isAscii c = true)
    (hascii₂ : ∀ c ∈ text₂.toList, Text.isAscii c = true)
    (htype : CallType.ofDigit (text₁.toList.getD 3 '0') =
      CallType.ofDigit (text₂.toList.getD 3 '0'))
    (hnumbers : (Text.span text₁.toList 4 22).map Char.toLower =
      (Text.span text₂.toList 4 22).map Char.toLower)
    (htrailer : Reading.referenced text₁.toList ≠ 0 →
      (Text.span text₁.toList 22 66).map Char.toLower =
        (Text.span text₂.toList 22 66).map Char.toLower)
    (options : Options) : SameOutcome (decode options text₁) (decode options text₂) := by
  rw [decode_eq, decode_eq, if_neg fun hne => hne hlen₁, if_neg fun hne => hne hlen₂,
    blameFirst_of_forall hascii₁, blameFirst_of_forall hascii₂]
  refine .blameFirst hnumbers fun hdigits₁ hdigits₂ => ?_
  have hvalue {first last : Nat} (hfirst : 4 ≤ first) (hlast : last ≤ 22) (hle : first ≤ last) :
      Text.digitsValue 16 (Text.span text₁.toList first last) =
        Text.digitsValue 16 (Text.span text₂.toList first last) :=
    Text.digitsValue_congr (fun c hc => hdigits₁ c (Text.mem_span_mono hfirst hlast hc))
      (fun c hc => hdigits₂ c (Text.mem_span_mono hfirst hlast hc))
      (Text.map_span_congr hnumbers hfirst hlast hle)
  have hsame : Reading.SameNumbers text₁.toList text₂.toList :=
    ⟨htype, hvalue (Nat.le_refl 4) (by omega) (by omega),
      congrArg UInt64.ofNat (hvalue (by omega) (Nat.le_refl 22) (by omega))⟩
  exact hsame.sameOutcome_checked htrailer options

/-- **What is not read does not matter.** Two texts of the right length in
ASCII, with one call type, have the same outcome under all options when
their digits behind the call-type byte are equal up to case. Where the
bitmap of both is zero the trailers need not even be similar. -/
theorem decode_sameOutcome (options : Options) {text₁ text₂ : String}
    (hlen₁ : text₁.toList.length = descriptorLength)
    (hlen₂ : text₂.toList.length = descriptorLength)
    (hascii₁ : ∀ c ∈ text₁.toList, Text.isAscii c = true)
    (hascii₂ : ∀ c ∈ text₂.toList, Text.isAscii c = true)
    (htype : CallType.ofDigit (text₁.toList.getD 3 '0') =
      CallType.ofDigit (text₂.toList.getD 3 '0')) :
    ((Text.span text₁.toList 4 66).map Char.toLower =
        (Text.span text₂.toList 4 66).map Char.toLower →
      SameOutcome (decode options text₁) (decode options text₂)) ∧
    ((Text.span text₁.toList 4 6).map Char.toLower =
        (Text.span text₂.toList 4 6).map Char.toLower →
      Text.span text₁.toList 6 22 = List.replicate 16 '0' →
      Text.span text₂.toList 6 22 = List.replicate 16 '0' →
      SameOutcome (decode options text₁) (decode options text₂)) := by
  constructor
  · intro hfields
    exact sameOutcome_decode_of_numbers hlen₁ hlen₂ hascii₁ hascii₂ htype
      (Text.map_span_congr hfields (by omega) (by omega) (by omega))
      (fun _ => Text.map_span_congr hfields (by omega) (by omega) (by omega)) options
  · intro hcount hzero₁ hzero₂
    have hnumbers : (Text.span text₁.toList 4 22).map Char.toLower =
        (Text.span text₂.toList 4 22).map Char.toLower := by
      rw [← Text.span_append (by omega : 4 ≤ 6) (by omega : 6 ≤ 22),
        ← Text.span_append (by omega : 4 ≤ 6) (by omega : 6 ≤ 22), List.map_append,
        List.map_append, hcount, hzero₁, hzero₂]
    exact sameOutcome_decode_of_numbers hlen₁ hlen₂ hascii₁ hascii₂ htype hnumbers
      (fun hsome => absurd (Reading.referenced_of_zeros hzero₁) hsome) options

/-- A pair of `f` in two cases, and trailers that are no digits at all. -/
theorem decode_sameOutcome_mixed_case :
    SameOutcome
        (decode { padding := .legacy, validation := .slots }
          "0x0002000000000000000A0fF1FfFfFfFfFfFfFfFfFfFfFfFfFfFfFfFfFfFfFfFf")
        (decode { padding := .legacy, validation := .slots }
          "??#902000000000000000a0Ff1fffffffffffffffffffffffffffffffffffffffF") ∧
      SameOutcome
        (decode { validation := .full }
          "0x00000000000000000000ffffffffffffffffffffffffffffffffffffffffffff")
        (decode { validation := .full }
          "0x00000000000000000000 no param needs a slot, so this is not read ") := by
  refine ⟨(decode_sameOutcome _ (by decide) (by decide) ?_ ?_ (by decide)).1 (by decide),
    (decode_sameOutcome _ (by decide) (by decide) ?_ ?_ (by decide)).2 (by decide) (by decide)
      (by decide)⟩
  all_goals exact List.all_eq_true.1 (by decide)

end CallDescriptor
