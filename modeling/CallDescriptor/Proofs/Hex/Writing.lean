import CallDescriptor.Proofs.Hex.Reading
/-!
# Hex text, written and read back

Writing is in lower case and of fixed width. What is written reads back
(`digitsValue_ofNat`, `octets_flatMap_ofByte`), and what is read is
written back as it stood, the case of its digits apart
(`ofNat_digitsValue`, `flatMap_ofByte_octets`).
-/

namespace CallDescriptor

namespace Hex

open Text

variable {cs : List Char}

/-! ## Single digits -/

theorem digitValue_digitChar {n : Nat} (hn : n < 16) : digitValue (Nat.digitChar n) = n := by
  have hall : ∀ m < 16, digitValue (Nat.digitChar m) = m := by decide
  exact hall n hn

theorem isHexDigit_digitChar {n : Nat} (hn : n < 16) :
    isHexDigit (Nat.digitChar n) = true := by
  have hall : ∀ m < 16, isHexDigit (Nat.digitChar m) = true := by decide
  exact hall n hn

/-- Digits are written in lower case. -/
theorem digitChar_digitValue {c : Char} (h : isHexDigit c = true) :
    Nat.digitChar (digitValue c) = c.toLower :=
  of_isHexDigit (P := fun d => Nat.digitChar (digitValue d) = d.toLower) (by decide) h

/-! ## Numbers -/

@[simp] theorem length_ofNat (width n : Nat) : (ofNat width n).length = width := by
  induction width generalizing n with
  | zero => rfl
  | succ w ih => rw [ofNat, List.length_append, ih, List.length_singleton]

theorem isHexDigit_of_mem_ofNat {width n : Nat} {c : Char} (h : c ∈ ofNat width n) :
    isHexDigit c = true := by
  induction width generalizing n with
  | zero => simp [ofNat] at h
  | succ w ih =>
    rw [ofNat, List.mem_append, List.mem_singleton] at h
    rcases h with h | rfl
    · exact ih h
    · exact isHexDigit_digitChar (Nat.mod_lt _ (by omega))

/-- **A number reads back** as far as the width reaches. -/
theorem digitsValue_ofNat (width n : Nat) : digitsValue 16 (ofNat width n) = n % 16 ^ width := by
  induction width generalizing n with
  | zero =>
    rw [Nat.pow_zero, Nat.mod_one]
    rfl
  | succ w ih =>
    rw [ofNat, digitsValue_concat, ih, digitValue_digitChar (Nat.mod_lt _ (by omega)),
      Nat.pow_succ, Nat.mul_comm (16 ^ w) 16, Nat.mod_mul]
    omega

/-- **Digits are written back** as they stood, in lower case. -/
theorem ofNat_digitsValue (h : ∀ c ∈ cs, isHexDigit c = true) :
    ofNat cs.length (digitsValue 16 cs) = cs.map Char.toLower := by
  induction cs using List.reverseRecOn with
  | nil => rfl
  | append_singleton cs c ih =>
    have hrest : ∀ d ∈ cs, isHexDigit d = true := fun d hd => h d (List.mem_append_left _ hd)
    have hc : isHexDigit c = true :=
      h c (List.mem_append_right _ (List.mem_singleton_self c))
    have hlt := digitValue_lt hc
    rw [digitsValue_concat, List.length_append, List.length_singleton, ofNat,
      show (16 * digitsValue 16 cs + digitValue c) / 16 = digitsValue 16 cs by omega,
      show (16 * digitsValue 16 cs + digitValue c) % 16 = digitValue c by omega,
      ih hrest, digitChar_digitValue hc, List.map_append, List.map_singleton]

/-- A word has a width of its own. -/
theorem length_ofWord (w : UInt64) : (ofWord w).length = 16 := length_ofNat 16 w.toNat

/-- No two words are written alike. -/
theorem ofWord_inj {v w : UInt64} : ofWord v = ofWord w ↔ v = w := by
  refine ⟨fun h => ?_, congrArg ofWord⟩
  have hread (u : UInt64) : digitsValue 16 (ofWord u) = u.toNat := by
    have hlt : u.toNat < 16 ^ 16 := u.toNat_lt
    rw [ofWord, digitsValue_ofNat, Nat.mod_eq_of_lt hlt]
  rw [← UInt64.toNat_inj, ← hread v, h, hread w]

/-! ## Bytes -/

theorem ofByte_eq (b : UInt8) :
    ofByte b = [Nat.digitChar (b.toNat / 16), Nat.digitChar (b.toNat % 16)] := by
  have hb := b.toNat_lt
  have hhi : b.toNat / 16 % 16 = b.toNat / 16 := Nat.mod_eq_of_lt (by omega)
  rw [ofByte, ofNat, ofNat, ofNat, hhi]
  rfl

/-- A byte is written as its two digits. -/
theorem ofByte_of_digits {hi lo : Char} (hhi : isHexDigit hi = true)
    (hlo : isHexDigit lo = true) :
    ofByte (UInt8.ofNat (16 * digitValue hi + digitValue lo)) = [hi.toLower, lo.toLower] := by
  have h₁ := digitValue_lt hhi
  have h₂ := digitValue_lt hlo
  have hbyte : (UInt8.ofNat (16 * digitValue hi + digitValue lo)).toNat =
      16 * digitValue hi + digitValue lo :=
    UInt8.toNat_ofNat_of_lt' (by rw [UInt8.size]; omega)
  rw [ofByte_eq, hbyte,
    show (16 * digitValue hi + digitValue lo) / 16 = digitValue hi by omega,
    show (16 * digitValue hi + digitValue lo) % 16 = digitValue lo by omega,
    digitChar_digitValue hhi, digitChar_digitValue hlo]

@[simp] theorem length_flatMap_ofByte (bs : List UInt8) :
    (bs.flatMap ofByte).length = 2 * bs.length := by
  induction bs with
  | nil => rfl
  | cons b bs ih =>
    rw [List.flatMap_cons, List.length_append, ih, ofByte, length_ofNat, List.length_cons]
    omega

theorem isHexDigit_of_mem_flatMap_ofByte {bs : List UInt8} {c : Char}
    (h : c ∈ bs.flatMap ofByte) : isHexDigit c = true := by
  obtain ⟨b, -, hb⟩ := List.mem_flatMap.1 h
  exact isHexDigit_of_mem_ofNat hb

/-- **Bytes read back.** -/
theorem octets_flatMap_ofByte (bs : List UInt8) : octets (bs.flatMap ofByte) = bs := by
  induction bs with
  | nil => rfl
  | cons b bs ih =>
    have hb := b.toNat_lt
    rw [List.flatMap_cons, ofByte_eq, List.cons_append, List.cons_append, List.nil_append,
      octets_cons_cons, ih, digitValue_digitChar (by omega),
      digitValue_digitChar (Nat.mod_lt _ (by omega)), Nat.div_add_mod, UInt8.ofNat_toNat]

/-- **Pairs of digits are written back** as they stood, in lower case. -/
theorem flatMap_ofByte_octets (h : ∀ c ∈ cs, isHexDigit c = true)
    (heven : cs.length % 2 = 0) : (octets cs).flatMap ofByte = cs.map Char.toLower := by
  induction cs using octets.induct with
  | case1 => rfl
  | case2 lone => simp at heven
  | case3 hi lo rest ih =>
    rw [List.forall_mem_cons, List.forall_mem_cons] at h
    obtain ⟨hhi, hlo, hrest⟩ := h
    rw [List.length_cons, List.length_cons] at heven
    rw [octets_cons_cons, List.flatMap_cons, ih hrest (by omega), ofByte_of_digits hhi hlo]
    rfl

/-- Bytes are written in lower case. -/
theorem map_toLower_flatMap_ofByte (bs : List UInt8) :
    (bs.flatMap ofByte).map Char.toLower = bs.flatMap ofByte := by
  have hdigits : ∀ c ∈ bs.flatMap ofByte, Text.isHexDigit c = true := fun _ hc =>
    isHexDigit_of_mem_flatMap_ofByte hc
  have hwritten := flatMap_ofByte_octets hdigits (by rw [length_flatMap_ofByte, Nat.mul_mod_right])
  rw [octets_flatMap_ofByte] at hwritten
  exact hwritten.symm

end Hex

end CallDescriptor
