import CallDescriptor.Proofs.Filler.Agreement
/-!
# Where trailing padding cuts

What a trailer holds with trailing padding is said here without a way to
compute it. `Hex.Spells` relates digits to the bytes that they spell, a
byte a pair, and `Trimmed` asks for a list of bytes which does not end in
filler and which filler completes to what is spelled. There is one such
list for each trailer that spells bytes at all, and it is the list of its
slots (`slotBytes_trailing_iff_trimmed`); so a filler byte in front of
another byte is a slot like any other.
-/

namespace CallDescriptor

/-! ## Digits in pairs -/

namespace Hex

open Text

/-- The text is pairs of digits, and each pair the number of one byte, the
first digit in the upper half. -/
inductive Spells : List Char → List UInt8 → Prop
  /-- No digits, no bytes. -/
  | nil : Spells [] []
  /-- Two digits in front of others are a byte in front of theirs. -/
  | pair {hi lo : Char} {b : UInt8} {text : List Char} {bytes : List UInt8}
      (hhi : isHexDigit hi = true) (hlo : isHexDigit lo = true)
      (hb : b.toNat = 16 * digitValue hi + digitValue lo) (hrest : Spells text bytes) :
      Spells (hi :: lo :: text) (b :: bytes)

variable {text : List Char} {bytes : List UInt8}

/-- Digits of even number spell something. -/
theorem spells_octets (hdigits : ∀ c ∈ text, isHexDigit c = true) (heven : text.length % 2 = 0) :
    Spells text (octets text) := by
  induction text using octets.induct with
  | case1 => exact .nil
  | case2 lone =>
    rw [List.length_singleton] at heven
    omega
  | case3 hi lo rest ih =>
    rw [List.forall_mem_cons, List.forall_mem_cons] at hdigits
    obtain ⟨hhi, hlo, hrest⟩ := hdigits
    rw [List.length_cons, List.length_cons] at heven
    have hhi' := digitValue_lt hhi
    have hlo' := digitValue_lt hlo
    rw [octets_cons_cons]
    refine .pair hhi hlo ?_ (ih hrest (by omega))
    exact UInt8.toNat_ofNat_of_lt' (by rw [UInt8.size]; omega)

/-- **Nothing else spells bytes**, and what is spelled is determined. -/
theorem spells_iff :
    Spells text bytes ↔
      text.length % 2 = 0 ∧ (∀ c ∈ text, isHexDigit c = true) ∧ octets text = bytes := by
  constructor
  · intro h
    induction h with
    | nil => exact ⟨rfl, nofun, rfl⟩
    | pair hhi hlo hb _ ih =>
      obtain ⟨heven, hdigits, rfl⟩ := ih
      refine ⟨?_, ?_, ?_⟩
      · rw [List.length_cons, List.length_cons]
        omega
      · rw [List.forall_mem_cons, List.forall_mem_cons]
        exact ⟨hhi, hlo, hdigits⟩
      · rw [octets_cons_cons, ← hb, UInt8.ofNat_toNat]
  · rintro ⟨heven, hdigits, rfl⟩
    exact spells_octets hdigits heven

/-- Bytes are spelled by their own digits in either case. -/
theorem spells_of_map_toLower (h : text.map Char.toLower = bytes.flatMap ofByte) :
    Spells text bytes := by
  have hdigits : ∀ c ∈ text, isHexDigit c = true := by
    intro c hc
    have hmem : c.toLower ∈ bytes.flatMap ofByte := h ▸ List.mem_map_of_mem hc
    rw [← isHexDigit_toLower]
    exact isHexDigit_of_mem_flatMap_ofByte hmem
  have hlength := congrArg List.length h
  rw [List.length_map, length_flatMap_ofByte] at hlength
  refine spells_iff.2 ⟨by omega, hdigits, ?_⟩
  rw [← octets_map_toLower hdigits, h, octets_flatMap_ofByte]

end Hex

/-! ## The trim -/

/-- The bytes do not end in filler, and with some number of filler bytes
behind them they are what the text spells. -/
def Trimmed (text : List Char) (bs : List UInt8) : Prop :=
  bs.getLast? ≠ some 0xff ∧ ∃ j, Hex.Spells text (bs ++ List.replicate j 0xff)

variable {text : List Char} {bs bytes : List UInt8}

/-- Only what is spelled can be trimmed, and in one way. -/
theorem trimmed_iff :
    Trimmed text bs ↔
      text.length % 2 = 0 ∧ (∀ c ∈ text, Text.isHexDigit c = true) ∧
        dropFiller (Hex.octets text) = bs := by
  constructor
  · rintro ⟨hlast, j, hspells⟩
    obtain ⟨heven, hdigits, hoctets⟩ := Hex.spells_iff.1 hspells
    exact ⟨heven, hdigits, (eq_dropFiller_iff.2 ⟨hlast, j, hoctets⟩).symm⟩
  · rintro ⟨heven, hdigits, rfl⟩
    obtain ⟨hlast, j, hoctets⟩ := eq_dropFiller_iff.1 (rfl : dropFiller (Hex.octets text) = _)
    exact ⟨hlast, j, Hex.spells_iff.2 ⟨heven, hdigits, hoctets⟩⟩

/-- A byte stays if anything from it on is no filler. -/
theorem getElem?_dropFiller {i k : Nat} {b : UInt8} (hik : i ≤ k) (hb : bytes[k]? = some b)
    (hne : b ≠ filler) : (dropFiller bytes)[i]? = bytes[i]? := by
  obtain ⟨j, hj⟩ := exists_dropFiller_append bytes
  generalize dropFiller bytes = kept at hj
  subst hj
  -- place `k` is not among the filler that goes, so neither is `i`
  have hk : k < kept.length := by
    by_contra hge
    rw [List.getElem?_append_right (by omega), List.getElem?_replicate] at hb
    split at hb
    · exact hne (Option.some.inj hb).symm
    · cases hb
  rw [List.getElem?_append_left (by omega)]

/-- **Trailing padding trims what is spelled.** A trailer gives slots just if
it is an even number of digits, and the slots are the one list of bytes that
does not end in filler and that filler completes to what the digits spell;
filler with another byte behind it is kept. So the digits of any bytes, in
either case and with any number of filler bytes behind them, give the bytes
without the filler at their own end. -/
theorem slotBytes_trailing_iff_trimmed (text : List Char) :
    (∀ bs, slotBytes .trailing text = .ok bs ↔
      text.length % 2 = 0 ∧ (∀ c ∈ text, Text.isHexDigit c = true) ∧ Trimmed text bs) ∧
    (text.length % 2 = 0 → (∀ c ∈ text, Text.isHexDigit c = true) →
      ∃! bs, Trimmed text bs) ∧
    (∀ bs bytes, slotBytes .trailing text = .ok bs → Hex.Spells text bytes →
      ∀ (i k : Nat) (b : UInt8), i ≤ k → bytes[k]? = some b → b ≠ 0xff → bs[i]? = bytes[i]?) ∧
    ∀ (bs : List UInt8) (j : Nat),
      text.map Char.toLower = bs.flatMap Hex.ofByte ++ List.replicate (2 * j) 'f' →
      slotBytes .trailing text = .ok (bs.rdropWhile (· == 0xff)) := by
  refine ⟨?_, ?_, ?_, ?_⟩
  · intro bs
    rw [slotBytes_eq_ok_iff, trimmed_iff]
    constructor
    · rintro ⟨hdigits, heven, hslots⟩
      exact ⟨heven, hdigits, heven, hdigits, hslots⟩
    · rintro ⟨-, -, heven, hdigits, hslots⟩
      exact ⟨hdigits, heven, hslots⟩
  · intro heven hdigits
    refine ⟨dropFiller (Hex.octets text), trimmed_iff.2 ⟨heven, hdigits, rfl⟩, ?_⟩
    intro bs hbs
    exact (trimmed_iff.1 hbs).2.2.symm
  · intro bs bytes hslots hspells i k b hik hb hne
    obtain ⟨-, -, rfl⟩ := slotBytes_eq_ok_iff.1 hslots
    obtain ⟨-, -, rfl⟩ := Hex.spells_iff.1 hspells
    exact getElem?_dropFiller hik hb hne
  · intro bs j hwritten
    rw [← flatMap_ofByte_replicate_filler, ← List.flatMap_append] at hwritten
    obtain ⟨heven, hdigits, hoctets⟩ := Hex.spells_iff.1 (Hex.spells_of_map_toLower hwritten)
    refine slotBytes_eq_ok_iff.2 ⟨hdigits, heven, ?_⟩
    rw [slotsLeft, hoctets, dropFiller_append_replicate]
    rfl

/-- Filler in front, between and behind, in both cases. -/
theorem slotBytes_trailing_iff_trimmed_inner_filler :
    slotBytes .trailing "fF01Ff10FFff".toList = .ok [0xff, 0x01, 0xff, 0x10] ∧
      (∃! bs, Trimmed "fF01Ff10FFff".toList bs) ∧
      Hex.Spells "fF01Ff10FFff".toList [0xff, 0x01, 0xff, 0x10, 0xff, 0xff] ∧
      ([0xff, 0x01, 0xff, 0x10] : List UInt8)[2]? =
        ([0xff, 0x01, 0xff, 0x10, 0xff, 0xff] : List UInt8)[2]? := by
  have heven : "fF01Ff10FFff".toList.length % 2 = 0 := by decide
  have hdigits : ∀ c ∈ "fF01Ff10FFff".toList, Text.isHexDigit c = true :=
    List.all_eq_true.1 (by decide)
  have hspells : Hex.Spells "fF01Ff10FFff".toList [0xff, 0x01, 0xff, 0x10, 0xff, 0xff] :=
    Hex.spells_iff.2 ⟨heven, hdigits, by decide +kernel⟩
  obtain ⟨-, hunique, hkept, hwritten⟩ := slotBytes_trailing_iff_trimmed "fF01Ff10FFff".toList
  have hslots : slotBytes .trailing "fF01Ff10FFff".toList = .ok [0xff, 0x01, 0xff, 0x10] :=
    hwritten [0xff, 0x01, 0xff, 0x10, 0xff] 1 (by decide +kernel)
  exact ⟨hslots, hunique heven hdigits, hspells,
    hkept _ _ hslots hspells 2 3 0x10 (by decide) rfl (by decide)⟩

end CallDescriptor
