import CallDescriptor.Proofs.Decoding
/-!
# What every accepted configuration looks like

`CallConfig.PairedWith` is the invariant of a configuration and the slots
it was made with: the params are the set bits from the highest down, the
first of them go without where there are too few slots, and the others
carry the last slots in order. Decoding never returns anything else
(`decode_ok_pairedWith`), whatever the padding and however little is
validated.
-/

namespace CallDescriptor

/-- The params of `c` are those of its bitmap, paired from the right with
`slots`. -/
structure CallConfig.PairedWith (c : CallConfig) (slots : List UInt8) : Prop where
  /-- Each set bit is a position, and no other number is. -/
  mem_positions : ∀ bit, bit ∈ c.positions.map UInt8.toNat ↔ c.bitmap.toNat.testBit bit = true
  descending : (c.positions.map UInt8.toNat).Pairwise (· > ·)
  position_lt : ∀ bit ∈ c.positions.map UInt8.toNat, bit < 64
  length_params : c.params.length = bitCount c.bitmap
  /-- The params without a slot stand first, and none of the others is without. -/
  unassigned_eq : c.unassigned = c.params.take (bitCount c.bitmap - slots.length)
  /-- The others carry the last slots, as many as there are. -/
  assigned : (c.params.drop (bitCount c.bitmap - slots.length)).map Param.slot =
    (slots.drop (slots.length - min (bitCount c.bitmap) slots.length)).map some
  assigned_le : c.params.countP (fun p => p.slot.isSome) ≤ 22
  /-- There are more bits than the trailer has bytes. -/
  not_full : 22 < bitCount c.bitmap → c.isFullyAssigned = false
  full_iff : c.isFullyAssigned = true ↔ bitCount c.bitmap = 0 ∨ bitCount c.bitmap ≤ slots.length

variable {slots : List UInt8}

/-! ## The invariant -/

namespace CallConfig

variable {c : CallConfig}

theorem map_toNat_positions (hparams : c.params = pairFromRight (Param.ofBitmap c.bitmap) slots) :
    c.positions.map UInt8.toNat = setBits c.bitmap := by
  rw [positions, hparams, map_position_pairFromRight, List.map_map]
  exact Param.map_position_ofBitmap c.bitmap

theorem unassigned_of_params (hparams : c.params = pairFromRight (Param.ofBitmap c.bitmap) slots) :
    c.unassigned = c.params.take (bitCount c.bitmap - slots.length) := by
  have hfresh : ∀ p ∈ Param.ofBitmap c.bitmap, p.slot = none :=
    fun p hp => Param.slot_of_mem_ofBitmap hp
  rw [unassigned, hparams, filter_isNone_pairFromRight hfresh, ← Param.length_ofBitmap,
    take_pairFromRight]

theorem isFullyAssigned_iff (hparams : c.params = pairFromRight (Param.ofBitmap c.bitmap) slots) :
    c.isFullyAssigned = true ↔ bitCount c.bitmap ≤ slots.length := by
  have hlen : c.params.length = bitCount c.bitmap := by
    rw [hparams, length_pairFromRight, Param.length_ofBitmap]
  rw [isFullyAssigned, unassigned_of_params hparams, List.isEmpty_iff, List.take_eq_nil_iff,
    ← List.length_eq_zero_iff, hlen]
  omega

/-- **Pairing from the right makes the invariant.** -/
theorem pairedWith_of_params (hparams : c.params = pairFromRight (Param.ofBitmap c.bitmap) slots)
    (hroom : bitCount c.bitmap ≠ 0 → slots.length ≤ 22) : c.PairedWith slots := by
  have hpositions := map_toNat_positions hparams
  have hfull := isFullyAssigned_iff hparams
  have hfresh : ∀ p ∈ Param.ofBitmap c.bitmap, p.slot = none :=
    fun p hp => Param.slot_of_mem_ofBitmap hp
  have hlen : c.params.length = bitCount c.bitmap := by
    rw [hparams, length_pairFromRight, Param.length_ofBitmap]
  refine ⟨fun bit => ?_, ?_, fun bit hbit => ?_, hlen, unassigned_of_params hparams, ?_, ?_,
    fun hmany => ?_, ?_⟩
  · rw [hpositions, mem_setBits]
  · rw [hpositions]
    exact pairwise_setBits c.bitmap
  · rw [hpositions] at hbit
    exact lt_of_mem_setBits hbit
  · have hdrop := map_slot_drop_pairFromRight (Param.ofBitmap c.bitmap) slots
    rw [← hparams, Param.length_ofBitmap] at hdrop
    rw [hdrop]
    congr 2
    omega
  · by_cases hnone : bitCount c.bitmap = 0
    · rw [List.length_eq_zero_iff.1 (hlen.trans hnone), List.countP_nil]
      exact Nat.zero_le _
    · have hle := countP_isSome_pairFromRight_le hfresh slots
      rw [← hparams] at hle
      exact Nat.le_trans hle (hroom hnone)
  · have := hroom (by omega)
    rw [Bool.eq_false_iff]
    exact fun h => absurd (hfull.1 h) (by omega)
  · rw [hfull]
    omega

end CallConfig

/-- **Every accepted configuration satisfies the invariant**, with the
slot bytes of the trailer. Where slots are validated every param has one,
and under full validation the declared reference count is right. Without
a referenced param the trailer need not hold slot bytes, and any will
do. -/
theorem decode_ok_pairedWith {options : Options} {text : String} {c : CallConfig}
    (h : decode options text = .ok c) :
    (bitCount c.bitmap ≠ 0 →
        ∃ slots, slotBytes options.padding (Text.span text.toList 22 66) = .ok slots) ∧
      (∀ slots, (bitCount c.bitmap ≠ 0 →
          slotBytes options.padding (Text.span text.toList 22 66) = .ok slots) →
        c.PairedWith slots) ∧
      (options.validation ≠ .permissive → c.isFullyAssigned = true) ∧
      (options.validation = .full → c.referenceCount.toNat = bitCount c.bitmap) := by
  obtain ⟨hacc, rfl⟩ := decode_eq_ok_iff.1 h
  have hpaired : ∀ padding, (Reading.config text.toList padding).params =
      pairFromRight (Param.ofBitmap (Reading.config text.toList padding).bitmap)
        (Reading.slots text.toList padding) := fun _ => rfl
  have hbytes : Reading.referenced text.toList ≠ 0 →
      slotBytes options.padding (Text.span text.toList 22 66) =
        .ok (Reading.slots text.toList options.padding) := fun hsome =>
    (Reading.slotBytes_trailer hacc.length_eq options.padding).trans
      (blameFirst_of_forall (hacc.trailer_digits hsome) _)
  refine ⟨fun hsome => ⟨_, hbytes hsome⟩, fun slots hslots => ?_, fun hchecks => ?_,
    fun hfull => ?_⟩
  · by_cases hnone : Reading.referenced text.toList = 0
    · have hnil : Param.ofBitmap (Reading.config text.toList options.padding).bitmap = [] :=
        Param.ofBitmap_eq_nil_iff.2 hnone
      refine CallConfig.pairedWith_of_params ?_ fun hsome => absurd hnone hsome
      rw [Reading.params_config_of_referenced_eq_zero hnone, hnil, pairFromRight_nil]
    · have heq := (hslots hnone).symm.trans (hbytes hnone)
      rw [Except.ok.injEq] at heq
      rw [heq]
      exact CallConfig.pairedWith_of_params (hpaired _) fun _ =>
        Reading.length_slots_le hacc.length_eq options.padding
  · refine (CallConfig.isFullyAssigned_iff (hpaired _)).2 ?_
    show Reading.referenced text.toList ≤ (Reading.slots text.toList options.padding).length
    by_cases hnone : Reading.referenced text.toList = 0
    · omega
    · exact Nat.le_of_eq (hacc.slot_count hnone hchecks).symm
  · show (UInt8.ofNat (Reading.declared text.toList)).toNat = Reading.referenced text.toList
    rw [← hacc.count hfull]
    exact UInt8.toNat_ofNat_of_lt' hacc.declared_lt

/-- With three params and one slot the lowest position has it. -/
theorem decode_ok_pairedWith_shortage :
    decode { padding := .legacy }
        "0x010000000000000000070FfFfFfFfFfFfFfFfFfFfFfFfFfFfFfFfFfFfFfFfFfF" =
      .ok ⟨.dynamicDelegateCall, 0, 7, [⟨2, none⟩, ⟨1, none⟩, ⟨0, some 0x0f⟩]⟩ ∧
    CallConfig.PairedWith
      ⟨.dynamicDelegateCall, 0, 7, [⟨2, none⟩, ⟨1, none⟩, ⟨0, some 0x0f⟩]⟩ [0x0f] := by
  have h : decode { padding := .legacy }
        "0x010000000000000000070FfFfFfFfFfFfFfFfFfFfFfFfFfFfFfFfFfFfFfFfFfF" =
      .ok ⟨.dynamicDelegateCall, 0, 7, [⟨2, none⟩, ⟨1, none⟩, ⟨0, some 0x0f⟩]⟩ := by
    decide +kernel
  exact ⟨h, (decode_ok_pairedWith h).2.1 [0x0f] fun _ => by decide +kernel⟩

end CallDescriptor
