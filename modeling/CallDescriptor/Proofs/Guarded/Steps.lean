import CallDescriptor.Proofs.Bitmap
import CallDescriptor.Proofs.Guarded.Ascii
import CallDescriptor.Proofs.Hex.Reading
/-!
# The steps on numbers are taken

Each reader of numbers, with every shift and every narrowing guarded,
comes to what the plain reader comes to, so no guard stops it. A word of
at most sixteen digits has room for each of them (`wordFrom_eq`), two
digits fit into a byte (`joinDigits_eq`), chunks are pairs but for the
last (`bytes_eq`), and a bitmap is scanned within its sixty-four bits
(`paramsOf_eq`).
-/

namespace CallDescriptor

namespace Guarded

open Text

variable {α β : Type} {x : Except DecodeError α} {cs : List Char} {offset : Nat}
  {bitmap : UInt64} {bit : Nat}

/-! ## Steps in a row -/

@[simp] theorem done_ok_bind (a : α) (f : α → Guarded β) : (done (.ok a) >>= f) = f a := rfl

/-- **A step that is taken** leaves what follows it, with its result. -/
theorem done_bind_congr {f : α → Guarded β} {g : α → Except DecodeError β}
    (h : ∀ a, x = .ok a → f a = done (g a)) : (done x >>= f) = done (x >>= g) := by
  cases x with
  | error e => rfl
  | ok a => exact h a rfl

theorem ensure_of {p : Prop} [Decidable p] (h : p) (a : α) : ensure p a = done (.ok a) := if_pos h

theorem narrow_eq {n : Nat} (h : n < 256) : narrow n = done (.ok n.toUInt8) :=
  ensure_of (UInt8.toNat_ofNat_of_lt' h) _

/-! ## Digits -/

/-- A digit is less than sixteen, and so fits into a byte. -/
theorem digit_eq (offset : Nat) (c : Char) : digit offset c = done (Hex.digit offset c) := by
  rw [digit, Hex.digit_eq]
  split
  · next hc => exact narrow_eq (Nat.lt_trans (digitValue_lt hc) (by decide))
  · rfl

theorem exists_of_digit_eq_ok {c : Char} {v : UInt8} (h : Hex.digit offset c = .ok v) :
    ∃ n < 16, v = UInt8.ofNat n := by
  rw [Hex.digit_eq] at h
  split at h
  · next hc => exact ⟨digitValue c, digitValue_lt hc, (Except.ok.inj h).symm⟩
  · exact absurd h nofun

theorem checkDigits_eq (offset : Nat) (cs : List Char) :
    checkDigits offset cs = done (Hex.checkDigits offset cs) := by
  induction cs generalizing offset with
  | nil => rfl
  | cons c cs ih =>
    rw [checkDigits, digit_eq]
    exact done_bind_congr fun _ _ => ih _

/-! ## Words -/

/-- There is room for one more digit. -/
theorem shiftIn_eq {w : UInt64} {v : Nat} (hv : v < 16) (hroom : 16 * w.toNat + v < 2 ^ 64) :
    shiftIn w (UInt8.ofNat v) = done (.ok (w <<< 4 ||| (UInt8.ofNat v).toUInt64)) := by
  refine ensure_of ?_ _
  rw [Hex.shiftLeft_or_digit w hv, UInt64.toNat_ofNat', Nat.mod_eq_of_lt hroom,
    UInt8.toNat_ofNat_of_lt' (Nat.lt_trans hv (by decide))]

/-- Room for all digits is room for the first, and for the others behind it. -/
theorem wordFrom_eq {w : UInt64} (hroom : (w.toNat + 1) * 16 ^ cs.length ≤ 2 ^ 64) :
    wordFrom w offset cs = done (Hex.wordFrom w offset cs) := by
  induction cs generalizing w offset with
  | nil => rfl
  | cons c cs ih =>
    rw [wordFrom, digit_eq]
    refine done_bind_congr fun v hc => ?_
    obtain ⟨n, hn, rfl⟩ := exists_of_digit_eq_ok hc
    have hpow : 1 ≤ 16 ^ cs.length := Nat.one_le_pow _ _ (by omega)
    have hnext : (16 * w.toNat + n + 1) * 16 ^ cs.length ≤ 2 ^ 64 :=
      calc (16 * w.toNat + n + 1) * 16 ^ cs.length
          ≤ (w.toNat + 1) * 16 * 16 ^ cs.length := Nat.mul_le_mul_right _ (by omega)
        _ = (w.toNat + 1) * 16 ^ (c :: cs).length := by
          rw [List.length_cons, Nat.pow_succ, Nat.mul_assoc, Nat.mul_comm 16]
        _ ≤ 2 ^ 64 := hroom
    have hlt : 16 * w.toNat + n < 2 ^ 64 :=
      Nat.lt_of_succ_le (Nat.le_trans (Nat.le_mul_of_pos_right _ hpow) hnext)
    rw [shiftIn_eq hn hlt, done_ok_bind]
    refine ih ?_
    rw [Hex.shiftLeft_or_digit w hn, UInt64.toNat_ofNat', Nat.mod_eq_of_lt hlt]
    exact hnext

/-- **A word of at most sixteen digits** is read without losing a bit. -/
theorem word_eq (hascii : ∀ c ∈ cs, isAscii c = true) (hlen : cs.length ≤ 16) :
    word offset (String.ofList cs) = done (Hex.word offset cs) := by
  have hsize : (String.ofList cs).utf8ByteSize ≤ 16 := by
    rw [utf8ByteSize_ofList_of_ascii hascii]
    exact hlen
  rw [word, ensure_of hsize, done_ok_bind, String.toList_ofList]
  refine wordFrom_eq ?_
  calc ((0 : UInt64).toNat + 1) * 16 ^ cs.length = 16 ^ cs.length := Nat.one_mul _
    _ ≤ 16 ^ 16 := Nat.pow_le_pow_right (by omega) hlen
    _ = 2 ^ 64 := by decide

/-! ## Bytes -/

theorem joinDigits_eq {h l : Nat} (hh : h < 16) (hl : l < 16) :
    joinDigits (UInt8.ofNat h) (UInt8.ofNat l) =
      done (.ok (UInt8.ofNat h <<< 4 ||| UInt8.ofNat l)) := by
  have hbyte {n : Nat} (hn : n < 256) : (UInt8.ofNat n).toNat = n := UInt8.toNat_ofNat_of_lt' hn
  refine ensure_of ?_ _
  rw [Hex.shiftLeft_or_byte hh hl, hbyte (by omega), hbyte (by omega), hbyte (by omega)]

theorem chunks_two (hi lo : Char) (rest : List Char) :
    chunks 2 (hi :: lo :: rest) = [hi, lo] :: chunks 2 rest := by
  rw [chunks]
  rfl

theorem chunks_two_lone (lone : Char) : chunks 2 [lone] = [[lone]] := by
  rw [chunks, List.take_nil, List.drop_nil, chunks]

/-- **Every byte is read**, and no chunk is neither a pair nor alone. -/
theorem bytes_eq (offset : Nat) (cs : List Char) :
    bytes offset cs = done (Hex.bytes offset cs) := by
  induction offset, cs using Hex.bytes.induct with
  | case1 offset =>
    rw [bytes, chunks]
    rfl
  | case2 offset lone =>
    rw [bytes, chunks_two_lone, bytesOfChunks, digit_eq]
    exact done_bind_congr fun _ _ => rfl
  | case3 offset hi lo rest ih =>
    rw [bytes, chunks_two, bytesOfChunks, digit_eq, digit_eq]
    refine done_bind_congr fun h hhi => done_bind_congr fun l hlo => ?_
    obtain ⟨m, hm, rfl⟩ := exists_of_digit_eq_ok hhi
    obtain ⟨n, hn, rfl⟩ := exists_of_digit_eq_ok hlo
    rw [joinDigits_eq hm hn, done_ok_bind]
    show (bytes (offset + 2) rest >>= fun bs => _) = _
    rw [ih]
    exact done_bind_congr fun _ _ => rfl

/-! ## Bitmaps -/

/-- A bit found by a shift is the bit of that number. -/
theorem bitAt_eq (h : bit < 64) : bitAt bitmap bit = done (.ok (bitmap.toNat.testBit bit)) := by
  have hshift : (bitmap >>> UInt64.ofNat bit &&& 1).toNat = bitmap.toNat / 2 ^ bit % 2 := by
    rw [UInt64.toNat_and, UInt64.toNat_shiftRight, UInt64.toNat_ofNat',
      show bit % 2 ^ 64 % 64 = bit by omega, Nat.shiftRight_eq_div_pow]
    exact Nat.and_one_is_mod _
  rw [bitAt, ensure_of h]
  congr 2
  rw [Nat.testBit_eq_decide_div_mod_eq, ← hshift, Bool.eq_iff_iff, beq_iff_eq,
    decide_eq_true_iff, ← UInt64.toNat_inj]
  rfl

theorem scan_eq {bits : List Nat} (h : ∀ bit ∈ bits, bit < 64) :
    scan bitmap bits = done (.ok
      ((bits.filter bitmap.toNat.testBit).map fun bit => { position := bit.toUInt8 })) := by
  induction bits with
  | nil => rfl
  | cons bit bits ih =>
    obtain ⟨hbit, hbits⟩ := List.forall_mem_cons.1 h
    rw [scan, bitAt_eq hbit, done_ok_bind, narrow_eq (by omega), done_ok_bind, ih hbits,
      done_ok_bind, List.filter_cons]
    show done (.ok _) = _
    split
    · rfl
    · rfl

/-- The width is what the leading zeros leave, at least one. -/
theorem max_clz_eq_bitmapWidth (bitmap : UInt64) :
    max (64 - bitmap.toBitVec.clz.toNat) 1 = bitmapWidth bitmap := by
  unfold bitmapWidth
  by_cases hzero : bitmap.toBitVec = 0#64
  · rw [show bitmap = 0 from UInt64.toBitVec_inj.1 hzero]
    decide
  · have hne : bitmap.toNat ≠ 0 := fun h => hzero (BitVec.eq_of_toNat_eq h)
    have hclz : bitmap.toBitVec.clz.toNat < 64 := BitVec.clz_lt_iff_ne_zero.2 hzero
    have hlow : 2 ^ (64 - 1 - bitmap.toBitVec.clz.toNat) ≤ bitmap.toNat :=
      BitVec.two_pow_sub_clz_le_toNat_of_ne_zero (by omega) hzero
    have hhigh : bitmap.toNat < 2 ^ (64 - bitmap.toBitVec.clz.toNat) :=
      BitVec.toNat_lt_two_pow_sub_clz
    have hlog : bitmap.toNat.log2 = 64 - 1 - bitmap.toBitVec.clz.toNat := by
      rw [Nat.log2_eq_iff hne, show 64 - 1 - bitmap.toBitVec.clz.toNat + 1 =
        64 - bitmap.toBitVec.clz.toNat by omega]
      exact ⟨hlow, hhigh⟩
    omega

/-- **Every bit that is scanned is in the word.** -/
theorem paramsOf_eq (bitmap : UInt64) : paramsOf bitmap = done (.ok (Param.ofBitmap bitmap)) := by
  have hclz : bitmap.toBitVec.clz.toNat ≤ 64 := BitVec.clz_le
  rw [paramsOf, sub, ensure_of hclz, done_ok_bind, max_clz_eq_bitmapWidth, scan_eq]
  · rfl
  · intro bit hbit
    rw [List.mem_reverse, List.mem_range] at hbit
    exact Nat.lt_of_lt_of_le hbit (bitmapWidth_le bitmap)

end Guarded

end CallDescriptor
