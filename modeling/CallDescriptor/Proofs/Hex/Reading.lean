import Mathlib.Data.List.Induction
import Mathlib.Tactic.IntervalCases
import Mathlib.Tactic.Ring
import CallDescriptor.Proofs.FirstFailing
import CallDescriptor.Text.Digits
/-!
# What hex text reads as

The readers of `Hex` shift machine words and stop at the first bad digit.
Here each is one equation: a check of the digits (`blameFirst`) in front
of a value that is plain arithmetic, `Text.digitsValue` for a word
(`word_eq`) and `octets` for pairs of digits (`bytes_eq`). Words are
reduced to their width, which with at most sixteen digits loses nothing.
-/

namespace CallDescriptor

namespace Text

variable {c : Char}

/-! ## Hex digits -/

/-- The hex digits, each in both cases. -/
def hexDigits : List Char :=
  ['0', '1', '2', '3', '4', '5', '6', '7', '8', '9', 'a', 'b', 'c', 'd', 'e', 'f',
    'A', 'B', 'C', 'D', 'E', 'F']

theorem isHexDigit_iff_toNat (c : Char) :
    isHexDigit c = true ↔ (48 ≤ c.toNat ∧ c.toNat ≤ 57) ∨ (97 ≤ c.toNat ∧ c.toNat ≤ 102) ∨
      (65 ≤ c.toNat ∧ c.toNat ≤ 70) := by
  simp only [isHexDigit, Char.isDigit, Bool.or_eq_true, Bool.and_eq_true, decide_eq_true_eq,
    ge_iff_le, Char.le_def, UInt32.le_iff_toNat_le, or_assoc]
  exact Iff.rfl

/-- A character outside ASCII is no digit. -/
theorem isAscii_of_isHexDigit (h : isHexDigit c = true) : isAscii c = true := by
  have hbounds := (isHexDigit_iff_toNat c).1 h
  rw [isAscii, decide_eq_true_eq]
  omega

/-- Every hex digit is one of the list. -/
theorem mem_hexDigits (h : isHexDigit c = true) : c ∈ hexDigits := by
  rw [← Char.ofNat_toNat c]
  have hbounds := (isHexDigit_iff_toNat c).1 h
  generalize c.toNat = n at hbounds
  rcases hbounds with ⟨hlo, hhi⟩ | ⟨hlo, hhi⟩ | ⟨hlo, hhi⟩
  · interval_cases n <;> decide
  · interval_cases n <;> decide
  · interval_cases n <;> decide

/-- What is decided on the list holds of all hex digits. -/
theorem of_isHexDigit {P : Char → Prop} [DecidablePred P]
    (hall : (hexDigits.all fun d => decide (P d)) = true) (h : isHexDigit c = true) : P c :=
  of_decide_eq_true (List.all_eq_true.1 hall c (mem_hexDigits h))

theorem digitValue_lt (h : isHexDigit c = true) : digitValue c < 16 :=
  of_isHexDigit (P := fun d => digitValue d < 16) (by decide) h

/-- The case of a digit says nothing about its value. -/
theorem digitValue_toLower (h : isHexDigit c = true) : digitValue c.toLower = digitValue c :=
  of_isHexDigit (P := fun d => digitValue d.toLower = digitValue d) (by decide) h

theorem toNat_toLower (c : Char) :
    c.toLower.toNat = if 65 ≤ c.toNat ∧ c.toNat ≤ 90 then c.toNat + 32 else c.toNat := by
  by_cases h : 65 ≤ c.toNat ∧ c.toNat ≤ 90
  · have hlower : c.toLower.val = c.val + 32 := congrArg Char.val (dif_pos h)
    have hsum : (c.val + 32).toNat = (c.toNat + 32) % 2 ^ 32 := UInt32.toNat_add c.val 32
    rw [if_pos h, Char.toNat, hlower, hsum]
    omega
  · have hsame : c.toLower = c := dif_neg h
    rw [if_neg h, hsame]

/-- Nor does it say whether it is a digit. -/
@[simp] theorem isHexDigit_toLower (c : Char) : isHexDigit c.toLower = isHexDigit c := by
  rw [Bool.eq_iff_iff, isHexDigit_iff_toNat, isHexDigit_iff_toNat, toNat_toLower]
  split <;> omega

/-! ## The number digits spell -/

variable {cs : List Char}

theorem digitsValue_concat (base : Nat) (cs : List Char) (c : Char) :
    digitsValue base (cs ++ [c]) = base * digitsValue base cs + digitValue c := by
  rw [digitsValue, List.foldl_append]
  rfl

/-- Digits spell a number below the power of their count. -/
theorem digitsValue_lt (h : ∀ c ∈ cs, isHexDigit c = true) :
    digitsValue 16 cs < 16 ^ cs.length := by
  -- from the right, where the digit of weight one stands
  induction cs using List.reverseRecOn with
  | nil => simp [digitsValue]
  | append_singleton cs c ih =>
    have hrest := ih fun d hd => h d (List.mem_append_left _ hd)
    have hc := digitValue_lt (h c (List.mem_append_right _ (List.mem_singleton_self c)))
    rw [digitsValue_concat, List.length_append, List.length_singleton, Nat.pow_succ]
    omega

/-- The case of digits says nothing about their number. -/
theorem digitsValue_map_toLower (h : ∀ c ∈ cs, isHexDigit c = true) :
    digitsValue 16 (cs.map Char.toLower) = digitsValue 16 cs := by
  induction cs using List.reverseRecOn with
  | nil => rfl
  | append_singleton cs c ih =>
    have hc := h c (List.mem_append_right _ (List.mem_singleton_self c))
    rw [List.map_append, List.map_singleton, digitsValue_concat, digitsValue_concat,
      ih fun d hd => h d (List.mem_append_left _ hd), digitValue_toLower hc]

end Text

namespace Hex

open Text

variable {offset : Nat} {cs : List Char}

/-- The two notions of a hex digit agree, and so do the two values. -/
theorem value?_eq (c : Char) :
    value? c = if isHexDigit c then some (UInt8.ofNat (digitValue c)) else none := by
  by_cases hc : isHexDigit c = true
  · rw [if_pos hc]
    exact of_isHexDigit (P := fun d => value? d = some (UInt8.ofNat (digitValue d))) (by decide) hc
  · have hbounds := mt (isHexDigit_iff_toNat c).2 hc
    have h0 : '0'.toNat = 48 := rfl
    have h9 : '9'.toNat = 57 := rfl
    have ha : 'a'.toNat = 97 := rfl
    have hf : 'f'.toNat = 102 := rfl
    have hA : 'A'.toNat = 65 := rfl
    have hF : 'F'.toNat = 70 := rfl
    rw [if_neg hc, value?, if_neg (by omega), if_neg (by omega), if_neg (by omega)]

theorem digit_eq (offset : Nat) (c : Char) :
    digit offset c =
      if isHexDigit c then .ok (UInt8.ofNat (digitValue c))
      else .error (.invalidDigit offset c) := by
  rw [digit, value?_eq]
  by_cases hc : isHexDigit c = true
  · rw [if_pos hc, if_pos hc]
  · rw [if_neg hc, if_neg hc]

/-- A check of digits is one of all of them. -/
theorem digit_bind {α : Type} (offset : Nat) (c : Char) (f : UInt8 → Except DecodeError α) :
    (digit offset c >>= f) =
      if isHexDigit c then f (UInt8.ofNat (digitValue c))
      else .error (.invalidDigit offset c) := by
  rw [digit_eq]
  by_cases hc : isHexDigit c = true
  · rw [if_pos hc, if_pos hc]; rfl
  · rw [if_neg hc, if_neg hc]; rfl

theorem checkDigits_eq (offset : Nat) (cs : List Char) :
    checkDigits offset cs = blameFirst isHexDigit offset cs (.ok ()) := by
  induction cs generalizing offset with
  | nil => rfl
  | cons c cs ih => rw [checkDigits, digit_bind, blameFirst_cons, ih]

/-! ## Words -/

/-- The low half of a byte fits under a shift by four. -/
theorem shiftLeft_or_eq (n : Nat) {v : Nat} (hv : v < 16) : n <<< 4 ||| v = 16 * n + v := by
  rw [← Nat.shiftLeft_add_eq_or_of_lt (by omega : v < 2 ^ 4), Nat.shiftLeft_eq]
  omega

/-- Shifting a digit in is arithmetic up to the width of the word. -/
theorem shiftLeft_or_digit (acc : UInt64) {v : Nat} (hv : v < 16) :
    acc <<< 4 ||| (UInt8.ofNat v).toUInt64 = UInt64.ofNat (16 * acc.toNat + v) := by
  have hbyte : (UInt8.ofNat v).toUInt64.toNat = v % 2 ^ 64 := by
    rw [UInt8.toNat_toUInt64, UInt8.toNat_ofNat']
    omega
  have hshift : (acc <<< 4).toNat = (acc.toNat <<< 4) % 2 ^ 64 := UInt64.toNat_shiftLeft acc 4
  rw [← UInt64.toNat_inj, UInt64.toNat_or, hshift, hbyte, ← Nat.or_mod_two_pow,
    shiftLeft_or_eq _ hv, UInt64.toNat_ofNat']

/-- Digits are read alike behind numbers that agree up to the width. -/
theorem foldl_digits_mod {m n : Nat} (h : m % 2 ^ 64 = n % 2 ^ 64) :
    cs.foldl (fun k c => 16 * k + digitValue c) m % 2 ^ 64 =
      cs.foldl (fun k c => 16 * k + digitValue c) n % 2 ^ 64 := by
  induction cs generalizing m n with
  | nil => exact h
  | cons c cs ih =>
    rw [List.foldl_cons, List.foldl_cons]
    exact ih (by omega)

theorem wordFrom_eq (acc : UInt64) (offset : Nat) (cs : List Char) :
    wordFrom acc offset cs = blameFirst isHexDigit offset cs
      (.ok (UInt64.ofNat (cs.foldl (fun n c => 16 * n + digitValue c) acc.toNat))) := by
  -- for every `acc`, since each digit is shifted into a longer number
  induction cs generalizing acc offset with
  | nil => rw [wordFrom, blameFirst_nil, List.foldl_nil, UInt64.ofNat_toNat]
  | cons c cs ih =>
    rw [wordFrom, digit_bind, blameFirst_cons, List.foldl_cons]
    by_cases hc : isHexDigit c = true
    · rw [if_pos hc, if_pos hc, shiftLeft_or_digit acc (digitValue_lt hc), ih]
      congr 2
      -- the word has dropped what the number still has, above its width
      rw [← UInt64.toNat_inj, UInt64.toNat_ofNat', UInt64.toNat_ofNat', UInt64.toNat_ofNat']
      exact foldl_digits_mod (Nat.mod_mod _ _)
    · rw [if_neg hc, if_neg hc]

/-- **A word reads as the number its digits spell**, up to its width. -/
theorem word_eq (offset : Nat) (cs : List Char) :
    word offset cs =
      blameFirst isHexDigit offset cs (.ok (UInt64.ofNat (digitsValue 16 cs))) := by
  rw [word, wordFrom_eq]
  rfl

/-! ## Bytes -/

/-- The bytes that pairs of digits spell; a last digit without a partner
spells none. -/
def octets : List Char → List UInt8
  | [] => []
  | [_] => []
  | hi :: lo :: rest => UInt8.ofNat (16 * digitValue hi + digitValue lo) :: octets rest

@[simp] theorem octets_cons_cons (hi lo : Char) (rest : List Char) :
    octets (hi :: lo :: rest) =
      UInt8.ofNat (16 * digitValue hi + digitValue lo) :: octets rest := rfl

/-- Two digits make a byte. -/
theorem shiftLeft_or_byte {h l : Nat} (hh : h < 16) (hl : l < 16) :
    UInt8.ofNat h <<< 4 ||| UInt8.ofNat l = UInt8.ofNat (16 * h + l) := by
  have hshift : (UInt8.ofNat h <<< 4).toNat = (h <<< 4) % 2 ^ 8 := by
    have hlt : h % 2 ^ 8 = h := Nat.mod_eq_of_lt (by omega)
    have := UInt8.toNat_shiftLeft (UInt8.ofNat h) 4
    rw [UInt8.toNat_ofNat', hlt] at this
    exact this
  rw [← UInt8.toNat_inj, UInt8.toNat_or, hshift, UInt8.toNat_ofNat', ← Nat.or_mod_two_pow,
    shiftLeft_or_eq _ hl, UInt8.toNat_ofNat']

/-- **Bytes read as the pairs of digits spell them**: the first bad digit
is blamed, and of digits alone a last one without a partner. -/
theorem bytes_eq (offset : Nat) (cs : List Char) :
    bytes offset cs = blameFirst isHexDigit offset cs
      (if cs.length % 2 = 0 then .ok (octets cs)
        else .error (.danglingDigit (offset + cs.length - 1))) := by
  induction offset, cs using bytes.induct with
  | case1 offset => rfl
  | case2 offset lone =>
    -- a bad digit is blamed before it is missed that it is alone
    rw [bytes, digit_bind, blameFirst_cons, blameFirst_nil]
    rfl
  | case3 offset hi lo rest ih =>
    rw [bytes, digit_bind, blameFirst_cons, blameFirst_cons]
    by_cases hhi : isHexDigit hi = true
    · rw [if_pos hhi, if_pos hhi, digit_bind]
      by_cases hlo : isHexDigit lo = true
      · rw [if_pos hlo, if_pos hlo, ih, blameFirst_bind, octets_cons_cons,
          shiftLeft_or_byte (digitValue_lt hhi) (digitValue_lt hlo)]
        have hlen : (hi :: lo :: rest).length = rest.length + 2 := rfl
        congr 1
        -- a pair changes neither the parity nor where the text ends
        by_cases heven : rest.length % 2 = 0
        · rw [if_pos heven, if_pos (by omega)]
          rfl
        · rw [if_neg heven, if_neg (by omega), hlen,
            show offset + 2 + rest.length - 1 = offset + (rest.length + 2) - 1 by omega]
          rfl
      · rw [if_neg hlo, if_neg hlo]
    · rw [if_neg hhi, if_neg hhi]

@[simp] theorem length_octets (cs : List Char) : (octets cs).length = cs.length / 2 := by
  induction cs using octets.induct with
  | case1 => rfl
  | case2 lone => simp [octets]
  | case3 hi lo rest ih =>
    rw [octets_cons_cons, List.length_cons, ih, List.length_cons, List.length_cons]
    omega

/-- **A byte among others** is what its own two digits spell. -/
theorem getElem?_octets {cs : List Char} {i : Nat} (h : 2 * i + 2 ≤ cs.length) :
    (octets cs)[i]? = some (UInt8.ofNat (digitsValue 16 (span cs (2 * i) (2 * i + 2)))) := by
  induction cs using octets.induct generalizing i with
  | case1 => exact absurd h (by simp)
  | case2 lone =>
    rw [List.length_singleton] at h
    omega
  | case3 hi lo rest ih =>
    rw [List.length_cons, List.length_cons] at h
    cases i with
    | zero =>
      rw [octets_cons_cons, List.getElem?_cons_zero]
      simp [span, digitsValue]
    | succ i =>
      rw [octets_cons_cons, List.getElem?_cons_succ, ih (by omega)]
      rw [span, span, show 2 * (i + 1) = 2 * i + 1 + 1 by omega, List.drop_succ_cons,
        List.drop_succ_cons, show 2 * i + 1 + 1 + 2 - (2 * i + 1 + 1) = 2 by omega,
        show 2 * i + 2 - 2 * i = 2 by omega]

/-- The case of digits says nothing about the bytes. -/
theorem octets_map_toLower {cs : List Char} (h : ∀ c ∈ cs, isHexDigit c = true) :
    octets (cs.map Char.toLower) = octets cs := by
  induction cs using octets.induct with
  | case1 => rfl
  | case2 lone => rfl
  | case3 hi lo rest ih =>
    rw [List.forall_mem_cons, List.forall_mem_cons] at h
    obtain ⟨hhi, hlo, hrest⟩ := h
    rw [List.map_cons, List.map_cons, octets_cons_cons, octets_cons_cons, ih hrest,
      digitValue_toLower hhi, digitValue_toLower hlo]

end Hex

end CallDescriptor
