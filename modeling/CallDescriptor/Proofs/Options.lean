import CallDescriptor.Proofs.Verdict
/-!
# What the options change

Validation refuses, padding moves slots, and neither says anything about
the other fields. Where nothing is validated a text is refused for its
characters alone, so what a stricter level adds is the comparison of two
counts (`decode_of_lenient`): each level gives the configuration of the
level below it or the mismatch that it is there to find. The one place
where a level speaks up earlier is the reference count, which is compared
before the trailer is read and then hides a bad digit in it.
-/

namespace CallDescriptor

open Reading

variable {padding : Padding} {validation strict : Validation}
variable {cs : List Char} {text : String} {c : CallConfig}

theorem refusal_eq_some_iff {α : Type} {x : Except DecodeError α} {e : DecodeError} :
    refusal x = some e ↔ x = .error e := by
  cases x with
  | error e' => rw [refusal, Option.some.injEq, Except.error.injEq]
  | ok a => exact ⟨nofun, nofun⟩

/-! ## Levels of validation -/

/-- **What passes a level passes every level that asks for less.** -/
theorem Reading.Accepted.relax (h : Accepted { padding, validation := strict } cs)
    (hfull : validation = .full → strict = .full)
    (hchecks : validation ≠ .permissive → strict ≠ .permissive) :
    Accepted { padding, validation } cs where
  toReadable := h.toReadable
  count hval := h.count (hfull hval)
  trailer_digits := h.trailer_digits
  slot_count hsome hval := h.slot_count hsome (hchecks hval)

/-- A success under a level is the same success under a laxer one. -/
theorem decode_relax (h : decode { padding, validation := strict } text = .ok c)
    (hfull : validation = .full → strict = .full)
    (hchecks : validation ≠ .permissive → strict ≠ .permissive) :
    decode { padding, validation } text = .ok c := by
  obtain ⟨hacc, hc⟩ := decode_eq_ok_iff.1 h
  exact decode_eq_ok_iff.2 ⟨hacc.relax hfull hchecks, hc⟩

/-- **Only the counts are left to check** of a text that is accepted where
nothing is validated, the reference count before the slots. -/
theorem decode_of_lenient (h : Accepted { padding } text.toList) (validation : Validation) :
    decode { padding, validation } text =
      if validation = .full ∧ declared text.toList ≠ referenced text.toList then
        .error (.referenceCount (declared text.toList) (referenced text.toList))
      else if referenced text.toList ≠ 0 ∧ validation ≠ .permissive ∧
          (slots text.toList padding).length ≠ referenced text.toList then
        .error (.slotCount (slots text.toList padding).length (referenced text.toList))
      else .ok (config text.toList padding) := by
  rw [decode_of_readable h.toReadable, checked]
  by_cases hcount : validation = .full ∧ declared text.toList ≠ referenced text.toList
  · rw [if_pos hcount, if_pos hcount]
  · rw [if_neg hcount, if_neg hcount]
    by_cases hnone : referenced text.toList = 0
    · rw [if_pos hnone, if_neg fun hne => hne.1 hnone]
    · rw [if_neg hnone, blameFirst_of_forall (h.trailer_digits hnone)]
      by_cases hslots : validation ≠ .permissive ∧
          (slots text.toList padding).length ≠ referenced text.toList
      · rw [if_pos hslots, if_pos ⟨hnone, hslots⟩]
      · rw [if_neg hslots, if_neg fun hne => hslots hne.2]

/-- The params of a configuration are as many as the bitmap marks. -/
theorem Reading.length_params_config (cs : List Char) (padding : Padding) :
    (config cs padding).params.length = referenced cs := by
  rw [config, length_pairFromRight, Param.length_ofBitmap, referenced]

/-- The declared count survives in the byte that holds it. -/
theorem Reading.toNat_referenceCount_config (h : Readable cs) (padding : Padding) :
    (config cs padding).referenceCount.toNat = declared cs :=
  UInt8.toNat_ofNat_of_lt' h.declared_lt

/-- Padding moves no param. -/
theorem Reading.positions_config (cs : List Char) (padding : Padding) :
    (config cs padding).positions = (Param.ofBitmap (bitmap cs)).map Param.position := by
  rw [CallConfig.positions, config, map_position_pairFromRight]

/-- **What slots are validated for.** A configuration that nothing is
validated for is refused on account of its slots only, and with their
count. -/
theorem slotCount_of_lenient {e : DecodeError} (h : decode { padding } text = .ok c)
    (herr : decode { padding, validation := .slots } text = .error e) :
    ∃ bytes, slotBytes padding (Text.span text.toList 22 66) = .ok bytes ∧
      bytes.length ≠ c.params.length ∧ e = .slotCount bytes.length c.params.length := by
  obtain ⟨hacc, rfl⟩ := decode_eq_ok_iff.1 h
  rw [decode_of_lenient hacc, if_neg fun hfull => nomatch hfull.1] at herr
  rw [length_params_config]
  split at herr
  · next hcount =>
    have hbytes := (slotBytes_trailer hacc.length_eq padding).trans
      (blameFirst_of_forall (hacc.trailer_digits hcount.1) _)
    exact ⟨slots text.toList padding, hbytes, hcount.2.2, (Except.error.inj herr).symm⟩
  · exact nomatch herr

/-- **What full validation adds** is the reference count. -/
theorem referenceCount_of_slots {e : DecodeError}
    (h : decode { padding, validation := .slots } text = .ok c)
    (herr : decode { padding, validation := .full } text = .error e) :
    e = .referenceCount c.referenceCount.toNat c.params.length := by
  obtain ⟨hacc, rfl⟩ := decode_eq_ok_iff.1 h
  have hlenient : Accepted { padding } text.toList := hacc.relax nofun fun hne => absurd rfl hne
  rw [decode_of_lenient hlenient] at herr
  rw [toNat_referenceCount_config hacc.toReadable, length_params_config]
  split at herr
  · exact (Except.error.inj herr).symm
  · split at herr
    · next hslots => exact absurd (hacc.slot_count hslots.1 nofun) hslots.2.2
    · exact nomatch herr

/-! ## Refused for its characters -/

/-- **What is refused where nothing is validated is always refused**, and
for the same reason, unless the reference count is wrong and hides a bad
digit of the trailer. -/
theorem decode_error_of_lenient {e : DecodeError} (h : decode { padding } text = .error e)
    (options : Options) :
    decode options text = .error e ∨
      options.validation = .full ∧ declared text.toList ≠ referenced text.toList ∧
        (∃ i d, Text.FirstFailing Text.isHexDigit text.toList 22 66 i d ∧
          e = .invalidDigit i d) ∧
        decode options text =
          .error (.referenceCount (declared text.toList) (referenced text.toList)) := by
  have hverdict := verdict_decode { padding } text
  rw [h] at hverdict
  have hsame (hv : Verdict options text.toList (some e)) : decode options text = .error e :=
    refusal_eq_some_iff.1 hv.refusal_eq
  -- no rule of the lenient level is about counts, so one of the other four applied
  cases hverdict with
  | length hlen => exact .inl (hsame (.length hlen))
  | nonAscii hlen hc => exact .inl (hsame (.nonAscii hlen hc))
  | number hlen hascii hc => exact .inl (hsame (.number hlen hascii hc))
  | count hread hfull hcount => exact nomatch hfull
  | slots hread hcount hsome hbytes hchecks hslots => exact absurd rfl hchecks
  | @trailer i d hread hcount hsome hc =>
    by_cases hfull : options.validation = .full ∧
        declared text.toList ≠ referenced text.toList
    · have hrefused : Verdict options text.toList
          (some (.referenceCount (declared text.toList) (referenced text.toList))) :=
        .count hread hfull.1 hfull.2
      exact .inr ⟨hfull.1, hfull.2, ⟨i, d, hc, rfl⟩,
        refusal_eq_some_iff.1 hrefused.refusal_eq⟩
    · rw [not_and, not_not] at hfull
      exact .inl (hsame (.trailer hread hfull hsome hc))

/-! ## All options together -/

/-- **Options filter and move slots, and do nothing else.** Each level of
validation accepts the configuration of the next laxer one or finds the
mismatch that it looks for. Two configurations of one text, under
whatever options, differ in slots at most. And where nothing is validated
a text is refused for what no option lets pass; only a wrong reference
count may be blamed in place of a bad digit of the trailer. -/
theorem decode_options_filter (padding : Padding) (text : String) :
    (∀ c, decode { padding, validation := .full } text = .ok c →
      decode { padding, validation := .slots } text = .ok c) ∧
    (∀ c, decode { padding, validation := .slots } text = .ok c →
      decode { padding, validation := .permissive } text = .ok c) ∧
    (∀ c e, decode { padding, validation := .permissive } text = .ok c →
      decode { padding, validation := .slots } text = .error e →
      ∃ bytes, slotBytes padding (Text.span text.toList 22 66) = .ok bytes ∧
        bytes.length ≠ c.params.length ∧ e = .slotCount bytes.length c.params.length) ∧
    (∀ c e, decode { padding, validation := .slots } text = .ok c →
      decode { padding, validation := .full } text = .error e →
      e = .referenceCount c.referenceCount.toNat c.params.length) ∧
    (∀ options₁ options₂ c₁ c₂, decode options₁ text = .ok c₁ → decode options₂ text = .ok c₂ →
      c₁.callType = c₂.callType ∧ c₁.referenceCount = c₂.referenceCount ∧
        c₁.bitmap = c₂.bitmap ∧ c₁.positions = c₂.positions) ∧
    ∀ e, decode { padding, validation := .permissive } text = .error e → ∀ options,
      decode options text = .error e ∨
        options.validation = .full ∧ declared text.toList ≠ referenced text.toList ∧
          (∃ i d, Text.FirstFailing Text.isHexDigit text.toList 22 66 i d ∧
            e = .invalidDigit i d) ∧
          decode options text =
            .error (.referenceCount (declared text.toList) (referenced text.toList)) := by
  refine ⟨fun c h => ?_, fun c h => ?_, fun c e => slotCount_of_lenient,
    fun c e => referenceCount_of_slots, fun options₁ options₂ c₁ c₂ h₁ h₂ => ?_,
    fun e => decode_error_of_lenient⟩
  · exact decode_relax h nofun fun _ => by decide
  · exact decode_relax h nofun fun hne => absurd rfl hne
  · obtain ⟨-, rfl⟩ := decode_eq_ok_iff.1 h₁
    obtain ⟨-, rfl⟩ := decode_eq_ok_iff.1 h₂
    refine ⟨rfl, rfl, rfl, ?_⟩
    rw [positions_config, positions_config]

/-- A reference count of four for one param, found by full validation alone. -/
theorem decode_options_filter_wrong_count :
    ∃ c, decode { validation := .slots }
          "0x0104000000000000000203ffffffffffffffffffffffffffffffffffffffffff" = .ok c ∧
      decode { validation := .permissive }
          "0x0104000000000000000203ffffffffffffffffffffffffffffffffffffffffff" = .ok c ∧
      decode { validation := .full }
          "0x0104000000000000000203ffffffffffffffffffffffffffffffffffffffffff" =
        .error (.referenceCount c.referenceCount.toNat c.params.length) := by
  have hslots : decode { validation := .slots }
      "0x0104000000000000000203ffffffffffffffffffffffffffffffffffffffffff" =
        .ok { callType := .dynamicDelegateCall, referenceCount := 4, bitmap := 2,
              params := [{ position := 1, slot := some 3 }] } := by decide +kernel
  have hfull : decode { validation := .full }
      "0x0104000000000000000203ffffffffffffffffffffffffffffffffffffffffff" =
        .error (.referenceCount 4 1) := by decide +kernel
  refine ⟨_, hslots, (decode_options_filter .trailing _).2.1 _ hslots, ?_⟩
  rw [hfull, (decode_options_filter .trailing _).2.2.2.1 _ _ hslots hfull]

/-- The same count in front of a bad digit, which it hides. -/
example :
    decode {} "0x0104000000000000000203fgffffffffffffffffffffffffffffffffffffffff" =
      .error (.invalidDigit 25 'g') ∧
    decode { validation := .slots }
        "0x0104000000000000000203fgffffffffffffffffffffffffffffffffffffffff" =
      .error (.invalidDigit 25 'g') ∧
    decode { validation := .full }
        "0x0104000000000000000203fgffffffffffffffffffffffffffffffffffffffff" =
      .error (.referenceCount 4 1) := by
  decide +kernel

end CallDescriptor
