import Mathlib.Data.Nat.BitIndices
import Mathlib.Order.Bounds.Defs
import CallDescriptor.Proofs.Bitmap
/-!
# Nothing of a bitmap is lost

The set bits of a word, read upwards, are the places of its binary digits
(`reverse_setBits`). So the powers of two at the positions add up to the
bitmap, and two bitmaps with the same params are the same. `bitmapWidth` is
just large enough: no shorter scan would reach every position.
-/

namespace CallDescriptor

variable {bitmap : UInt64}

/-- **Upwards the set bits are the places of the binary digits.** -/
theorem reverse_setBits (bitmap : UInt64) :
    (setBits bitmap).reverse = bitmap.toNat.bitIndices := by
  have hascending : (setBits bitmap).reverse.Pairwise (· < ·) :=
    List.pairwise_reverse.2 (pairwise_setBits bitmap)
  have hdigits : bitmap.toNat.bitIndices.Pairwise (· < ·) :=
    List.sortedLT_iff_pairwise.1 Nat.bitIndices_sorted
  -- two ascending lists with the same members are the same
  have hperm : (setBits bitmap).reverse.Perm bitmap.toNat.bitIndices := by
    refine (List.perm_ext_iff_of_nodup hascending.nodup hdigits.nodup).2 fun bit => ?_
    rw [List.mem_reverse, mem_setBits, Nat.mem_bitIndices]
  exact hperm.eq_of_pairwise (fun a b _ _ hab hba => absurd hba (Nat.lt_asymm hab)) hascending
    hdigits

/-- **The powers of two at the set bits add up to the bitmap.** -/
theorem sum_two_pow_setBits (bitmap : UInt64) :
    ((setBits bitmap).map fun bit => 2 ^ bit).sum = bitmap.toNat := by
  rw [← List.sum_reverse, ← List.map_reverse, reverse_setBits, Nat.sum_map_two_pow_bitIndices]

theorem cpopNatRec_eq_countP {w : Nat} (x : BitVec w) (n acc : Nat) :
    x.cpopNatRec n acc = acc + (List.range n).countP x.getLsbD := by
  induction n generalizing acc with
  | zero => rfl
  | succ n ih =>
    rw [BitVec.cpopNatRec_succ, ih, List.range_succ, List.countP_append, List.countP_singleton]
    cases x.getLsbD n with
    | false => rfl
    | true => simp only [Bool.toNat_true, if_true]; omega

/-- The set bits are counted as a word counts them. -/
theorem bitCount_eq_cpop (bitmap : UInt64) : bitCount bitmap = bitmap.toBitVec.cpop.toNat := by
  rw [BitVec.toNat_cpop, cpopNatRec_eq_countP, Nat.zero_add]
  rfl

theorem lt_two_pow_bitmapWidth (bitmap : UInt64) : bitmap.toNat < 2 ^ bitmapWidth bitmap :=
  Nat.lt_log2_self

/-- **The width is the least that holds the bitmap**, and at least one. -/
theorem isLeast_bitmapWidth (bitmap : UInt64) :
    IsLeast {w | 1 ≤ w ∧ bitmap.toNat < 2 ^ w} (bitmapWidth bitmap) := by
  refine ⟨⟨Nat.le_add_left 1 _, lt_two_pow_bitmapWidth bitmap⟩, fun w hw => ?_⟩
  obtain ⟨hone, hlt⟩ := hw
  unfold bitmapWidth
  by_cases h0 : bitmap.toNat = 0
  · rw [h0, Nat.log2_zero]
    exact hone
  · exact (Nat.log2_lt h0).2 hlt

/-! ## The params -/

/-- `params` are `bitmap` bit by bit, from the highest set bit down and none
with a slot. -/
structure SparseForm (params : List Param) (bitmap : UInt64) : Prop where
  descending : (params.map fun p => p.position.toNat).Pairwise (· > ·)
  lt_width : ∀ p ∈ params, p.position.toNat < bitmapWidth bitmap
  /-- A position stands for a set bit, and each set bit for a position. -/
  mem_iff : ∀ bit, bit ∈ params.map (fun p => p.position.toNat) ↔
    bitmap.toNat.testBit bit = true
  sum_eq : (params.map fun p => 2 ^ p.position.toNat).sum = bitmap.toNat
  length_eq : params.length = bitmap.toBitVec.cpop.toNat
  unassigned : ∀ p ∈ params, p.slot = none

theorem sparseForm_ofBitmap (bitmap : UInt64) : SparseForm (Param.ofBitmap bitmap) bitmap where
  descending := by
    rw [Param.map_position_ofBitmap]
    exact pairwise_setBits bitmap
  lt_width p hp := by
    have hbit : p.position.toNat ∈ setBits bitmap := by
      rw [← Param.map_position_ofBitmap]
      exact List.mem_map_of_mem hp
    exact lt_bitmapWidth_of_testBit (mem_setBits.1 hbit)
  mem_iff bit := by
    rw [Param.map_position_ofBitmap, mem_setBits]
  sum_eq := by
    have hpositions := Param.map_position_ofBitmap bitmap
    rw [← sum_two_pow_setBits, ← hpositions, List.map_map]
    rfl
  length_eq := by
    rw [Param.length_ofBitmap, bitCount_eq_cpop]
  unassigned _ hp := Param.slot_of_mem_ofBitmap hp

/-- The bitmap can be read off its params. -/
theorem SparseForm.bitmap_unique {params : List Param} {bitmap bitmap' : UInt64}
    (h : SparseForm params bitmap) (h' : SparseForm params bitmap') : bitmap = bitmap' :=
  UInt64.toNat_inj.1 (h.sum_eq.symm.trans h'.sum_eq)

/-- **The params of a bitmap are a sparse form of it.** A scan of the whole word gives
the same params, different bitmaps have different ones, and the scan starts at
the least width that holds the bitmap. -/
theorem ofBitmap_is_sparse_form :
    (∀ bitmap, SparseForm (Param.ofBitmap bitmap) bitmap) ∧
      (∀ bitmap, Param.ofBitmap bitmap =
        ((List.range 64).reverse.filter bitmap.toNat.testBit).map
          fun bit => { position := bit.toUInt8 }) ∧
      Function.Injective Param.ofBitmap ∧
      ∀ bitmap, bitmapWidth bitmap ≤ 64 ∧
        IsLeast {w | 1 ≤ w ∧ bitmap.toNat < 2 ^ w} (bitmapWidth bitmap) := by
  refine ⟨sparseForm_ofBitmap, fun bitmap => ?_, fun bitmap bitmap' h => ?_,
    fun bitmap => ⟨bitmapWidth_le bitmap, isLeast_bitmapWidth bitmap⟩⟩
  · rw [Param.ofBitmap, setBits_eq]
  · exact (sparseForm_ofBitmap bitmap).bitmap_unique (h ▸ sparseForm_ofBitmap bitmap')

end CallDescriptor
