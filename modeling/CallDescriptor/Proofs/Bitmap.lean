import Mathlib.Data.List.Basic
import CallDescriptor.CallConfig
/-!
# The bitmap as a list of positions

`setBits` scans a word from its highest bit down and stops at its width.
The scan misses nothing: `setBits_eq` gives the same list as a scan of
all sixty-four bits. What a bitmap marks is read off that list, its
order from `pairwise_setBits` and its length, `bitCount`, from a count
of the bits in any order.
-/

namespace CallDescriptor

variable {bitmap : UInt64} {bit : Nat}

/-- The number of set bits. -/
def bitCount (bitmap : UInt64) : Nat := (List.range 64).countP bitmap.toNat.testBit

/-- The width holds every set bit. -/
theorem lt_bitmapWidth_of_testBit (h : bitmap.toNat.testBit bit = true) :
    bit < bitmapWidth bitmap := by
  by_contra hge
  have hlt : bitmap.toNat < 2 ^ bit :=
    Nat.lt_of_lt_of_le Nat.lt_log2_self
      (Nat.pow_le_pow_right (by omega) (Nat.le_of_not_lt hge))
  rw [Nat.testBit_lt_two_pow hlt] at h
  exact absurd h (by decide)

theorem bitmapWidth_le (bitmap : UInt64) : bitmapWidth bitmap ≤ 64 := by
  unfold bitmapWidth
  by_cases h0 : bitmap.toNat = 0
  · rw [h0]
    decide
  · have hlog := (Nat.log2_lt h0).2 bitmap.toNat_lt
    omega

theorem mem_setBits : bit ∈ setBits bitmap ↔ bitmap.toNat.testBit bit = true := by
  rw [setBits, List.mem_filter, List.mem_reverse, List.mem_range]
  exact ⟨fun h => h.2, fun h => ⟨lt_bitmapWidth_of_testBit h, h⟩⟩

theorem lt_of_mem_setBits (h : bit ∈ setBits bitmap) : bit < 64 :=
  Nat.lt_of_lt_of_le (lt_bitmapWidth_of_testBit (mem_setBits.1 h)) (bitmapWidth_le bitmap)

/-- The positions stand from the highest down. -/
theorem pairwise_setBits (bitmap : UInt64) : (setBits bitmap).Pairwise (· > ·) :=
  (List.pairwise_reverse.2 List.pairwise_lt_range).filter _

/-- **The scan is a scan of the whole word.** What lies above the width
marks nothing. -/
theorem setBits_eq (bitmap : UInt64) :
    setBits bitmap = (List.range 64).reverse.filter bitmap.toNat.testBit := by
  -- the rest of the word is `above` positions, of which none is marked
  obtain ⟨above, habove⟩ := Nat.exists_eq_add_of_le (bitmapWidth_le bitmap)
  have hnone : ((List.range above).map (bitmapWidth bitmap + ·)).reverse.filter
      bitmap.toNat.testBit = [] := by
    rw [List.filter_eq_nil_iff]
    intro bit hbit hset
    obtain ⟨k, -, rfl⟩ := List.mem_map.1 (List.mem_reverse.1 hbit)
    have := lt_bitmapWidth_of_testBit hset
    omega
  rw [setBits, habove, List.range_add, List.reverse_append, List.filter_append, hnone,
    List.nil_append]

@[simp] theorem length_setBits (bitmap : UInt64) : (setBits bitmap).length = bitCount bitmap := by
  rw [setBits_eq, bitCount, List.filter_reverse, List.length_reverse, List.countP_eq_length_filter]

/-! ## The params a bitmap marks -/

namespace Param

@[simp] theorem length_ofBitmap (bitmap : UInt64) :
    (ofBitmap bitmap).length = bitCount bitmap := by
  rw [ofBitmap, List.length_map, length_setBits]

theorem ofBitmap_eq_nil_iff : ofBitmap bitmap = [] ↔ bitCount bitmap = 0 := by
  rw [← List.length_eq_zero_iff, length_ofBitmap]

theorem slot_of_mem_ofBitmap {p : Param} (h : p ∈ ofBitmap bitmap) : p.slot = none := by
  obtain ⟨bit, -, rfl⟩ := List.mem_map.1 h
  rfl

/-- **The positions are the set bits**, none of which is too high for a
byte. -/
theorem map_position_ofBitmap (bitmap : UInt64) :
    (ofBitmap bitmap).map (fun p => p.position.toNat) = setBits bitmap := by
  rw [ofBitmap, List.map_map]
  refine (List.map_congr_left fun bit hbit => ?_).trans (List.map_id _)
  exact UInt8.toNat_ofNat_of_lt' (Nat.lt_trans (lt_of_mem_setBits hbit) (by decide))

end Param

end CallDescriptor
