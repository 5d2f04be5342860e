import CallDescriptor.Layout
import CallDescriptor.Proofs.Decoding
/-!
# What was read is written back

With trailing padding and validated slots decoding loses nothing. It
accepts just the texts whose slots stand at the left of the trailer, one
for each referenced param, with nothing but filler behind them; it pairs
them in order, although it starts from the right; and the layout written
from the result is the text again, the case of its digits apart
(`decode_trailing_writes_back`).
-/

namespace CallDescriptor

namespace Reading

variable {cs : List Char}

/-- The number that the two digits of a trailer byte spell. -/
def trailerByte (cs : List Char) (i : Nat) : Nat :=
  Text.digitsValue 16 (Text.span cs (22 + 2 * i) (24 + 2 * i))

theorem trailerByte_lt (h : cs.length = descriptorLength)
    (hdigits : ∀ c ∈ trailer cs, Text.isHexDigit c = true) {i : Nat} (hi : i < 22) :
    trailerByte cs i < 256 := by
  have hbyte : ∀ c ∈ Text.span cs (22 + 2 * i) (24 + 2 * i), Text.isHexDigit c = true :=
    fun c hc => hdigits c (Text.mem_span_mono (by omega) (by omega) hc)
  have hlt := Text.digitsValue_lt hbyte
  have hlast : 24 + 2 * i ≤ descriptorLength := by
    unfold descriptorLength
    omega
  rw [length_span_of_length h hlast, show 24 + 2 * i - (22 + 2 * i) = 2 by omega] at hlt
  exact hlt

/-- The bytes of the trailer are what its pairs of digits spell. -/
theorem getElem?_octets_trailer (h : cs.length = descriptorLength) {i : Nat} (hi : i < 22) :
    (Hex.octets (trailer cs))[i]? = some (UInt8.ofNat (trailerByte cs i)) := by
  have hlen := length_trailer h
  rw [Hex.getElem?_octets (by omega), trailer, Text.span_span (by omega), trailerByte,
    show 22 + (2 * i + 2) = 24 + 2 * i by omega]

/-- A byte is filler just if its digits spell that. -/
theorem octets_trailer_eq_filler_iff (h : cs.length = descriptorLength)
    (hdigits : ∀ c ∈ trailer cs, Text.isHexDigit c = true) {i : Nat} (hi : i < 22) :
    (Hex.octets (trailer cs))[i]? = some filler ↔ trailerByte cs i = 0xff := by
  have hfiller : filler.toNat = 0xff := rfl
  rw [getElem?_octets_trailer h hi, Option.some.injEq, ← UInt8.toNat_inj,
    UInt8.toNat_ofNat_of_lt' (trailerByte_lt h hdigits hi), hfiller]

/-- **How many slots a trailer holds** is where its filler starts. -/
theorem length_slots_trailing_iff (h : cs.length = descriptorLength)
    (hdigits : ∀ c ∈ trailer cs, Text.isHexDigit c = true) {n : Nat} (hpos : 0 < n) :
    (slots cs .trailing).length = n ↔
      n ≤ 22 ∧ trailerByte cs (n - 1) ≠ 0xff ∧ ∀ i, n ≤ i → i < 22 → trailerByte cs i = 0xff := by
  have hlen : (Hex.octets (trailer cs)).length = 22 := by
    rw [Hex.length_octets, length_trailer h]
  by_cases hn : n ≤ 22
  · rw [show slots cs .trailing = dropFiller (Hex.octets (trailer cs)) from rfl,
      length_dropFiller_eq_iff hpos (by omega), hlen, ne_eq,
      octets_trailer_eq_filler_iff h hdigits (by omega)]
    constructor
    · rintro ⟨hlast, hfill⟩
      exact ⟨hn, hlast, fun i hi hlt =>
        (octets_trailer_eq_filler_iff h hdigits hlt).1 (hfill i hi hlt)⟩
    · rintro ⟨-, hlast, hfill⟩
      exact ⟨hlast, fun i hi hlt =>
        (octets_trailer_eq_filler_iff h hdigits hlt).2 (hfill i hi hlt)⟩
  · have hle := length_slots_le h .trailing
    exact ⟨fun heq => absurd heq (by omega), fun hall => absurd hall.1 hn⟩

/-! ## The fields, written back -/

/-- The bitmap is written back, with its leading zeros. -/
theorem ofWord_bitmap (h : Readable cs) :
    Hex.ofWord (bitmap cs) = (Text.span cs 6 22).map Char.toLower := by
  rw [← Hex.ofNat_digitsValue fun c hc =>
      h.isHexDigit_of_mem (by omega) (Nat.le_refl 22) hc,
    length_span_of_length h.length_eq (by decide), Hex.ofWord, h.toNat_bitmap]

/-- **The number fields are written back.** -/
theorem numbers_config (h : Readable cs) (padding : Padding) :
    Layout.numbers (config cs padding).referenceCount (config cs padding).bitmap =
      (Text.span cs 4 22).map Char.toLower := by
  have hdeclared : Hex.ofByte (UInt8.ofNat (declared cs)) =
      (Text.span cs 4 6).map Char.toLower := by
    rw [← Hex.ofNat_digitsValue fun c hc =>
        h.isHexDigit_of_mem (Nat.le_refl 4) (by omega) hc,
      length_span_of_length h.length_eq (by decide), Hex.ofByte,
      UInt8.toNat_ofNat_of_lt' h.declared_lt]
    rfl
  show Hex.ofByte (UInt8.ofNat (declared cs)) ++ Hex.ofWord (bitmap cs) = _
  rw [hdeclared, ofWord_bitmap h, ← List.map_append, Text.span_append (by omega) (by omega)]

/-- **The trailer is written back**: what was dropped was filler. -/
theorem trailer_slots (h : cs.length = descriptorLength)
    (hdigits : ∀ c ∈ trailer cs, Text.isHexDigit c = true) :
    Layout.trailer (slots cs .trailing) = (trailer cs).map Char.toLower := by
  obtain ⟨j, hj⟩ := exists_dropFiller_append (Hex.octets (trailer cs))
  have hsum := congrArg List.length hj
  rw [Hex.length_octets, length_trailer h, List.length_append, List.length_replicate] at hsum
  have hfill : Layout.trailerBytes - (dropFiller (Hex.octets (trailer cs))).length = j := by
    unfold Layout.trailerBytes
    omega
  show ((dropFiller (Hex.octets (trailer cs))) ++ List.replicate
    (Layout.trailerBytes - (dropFiller (Hex.octets (trailer cs))).length) filler).flatMap
      Hex.ofByte = _
  rw [hfill, ← hj, Hex.flatMap_ofByte_octets hdigits (by rw [length_trailer h])]

/-- With a slot for each param the params carry the slots in order. -/
theorem map_slot_params_config {padding : Padding}
    (h : (slots cs padding).length = referenced cs) :
    (config cs padding).params.map Param.slot = (slots cs padding).map some := by
  have hlen : (slots cs padding).length = (Param.ofBitmap (bitmap cs)).length := by
    rw [h, Param.length_ofBitmap, referenced]
  rw [config, pairFromRight_of_length_eq hlen, map_slot_zipWith (Nat.le_of_eq hlen)]

theorem slots_config {padding : Padding} (h : (slots cs padding).length = referenced cs) :
    (config cs padding).slots = slots cs padding := by
  have hid : (config cs padding).slots =
      ((config cs padding).params.map Param.slot).filterMap id := by
    rw [List.filterMap_map, CallConfig.slots]
    rfl
  rw [hid, map_slot_params_config h, List.filterMap_map]
  exact List.filterMap_some

/-- The slots are the trailer from the left. -/
theorem getElem?_params_config (h : cs.length = descriptorLength)
    (hdigits : ∀ c ∈ trailer cs, Text.isHexDigit c = true)
    (hcount : (slots cs .trailing).length = referenced cs) {i : Nat} (hi : i < referenced cs) :
    ∃ p slot, (config cs .trailing).params[i]? = some p ∧ p.slot = some slot ∧
      slot.toNat = trailerByte cs i := by
  have hle := length_slots_le h .trailing
  obtain ⟨j, hj⟩ := exists_dropFiller_append (Hex.octets (trailer cs))
  have hslot : (slots cs .trailing)[i]? = some (UInt8.ofNat (trailerByte cs i)) := by
    rw [← getElem?_octets_trailer h (by omega), hj]
    exact (List.getElem?_append_left (hcount ▸ hi)).symm
  have hparam := congrArg (fun l => l[i]?) (map_slot_params_config hcount)
  rw [List.getElem?_map, List.getElem?_map, hslot, Option.map_some,
    Option.map_eq_some_iff] at hparam
  obtain ⟨p, hp, hpslot⟩ := hparam
  exact ⟨p, UInt8.ofNat (trailerByte cs i), hp, hpslot,
    UInt8.toNat_ofNat_of_lt' (trailerByte_lt h hdigits (by omega))⟩

/-- **What strict decoding accepts**, in terms of the text alone. -/
theorem accepted_trailing_iff {validation : Validation} (hchecks : validation ≠ .permissive) :
    Accepted { padding := .trailing, validation } cs ↔
      cs.length = descriptorLength ∧ (∀ c ∈ cs, Text.isAscii c = true) ∧
        (∀ c ∈ Text.span cs 4 22, Text.isHexDigit c = true) ∧
        (validation = .full → declared cs = referenced cs) ∧
        (referenced cs = 0 ∨
          (∀ c ∈ Text.span cs 22 66, Text.isHexDigit c = true) ∧ referenced cs ≤ 22 ∧
            trailerByte cs (referenced cs - 1) ≠ 0xff ∧
            ∀ i, referenced cs ≤ i → i < 22 → trailerByte cs i = 0xff) := by
  constructor
  · intro hacc
    refine ⟨hacc.length_eq, hacc.ascii, hacc.digits, hacc.count, ?_⟩
    by_cases hnone : referenced cs = 0
    · exact .inl hnone
    · have hdigits := hacc.trailer_digits hnone
      exact .inr ⟨hdigits, (length_slots_trailing_iff hacc.length_eq hdigits
        (Nat.pos_of_ne_zero hnone)).1 (hacc.slot_count hnone hchecks)⟩
  · rintro ⟨hlen, hascii, hnumbers, hcount, hrest⟩
    refine ⟨⟨hlen, hascii, hnumbers⟩, hcount, fun hsome => ?_, fun hsome _ => ?_⟩
    · exact (hrest.resolve_left hsome).1
    · obtain ⟨hdigits, hfill⟩ := hrest.resolve_left hsome
      exact (length_slots_trailing_iff hlen hdigits (Nat.pos_of_ne_zero hsome)).2 hfill

end Reading

open Reading in
/-- **Strict decoding accepts just the layout and loses nothing.** It
succeeds exactly on the texts whose number fields are digits, with the
right reference count where that matters, and whose slots, one for each
param, stand at the left of the trailer with filler behind them; a text
without params may have any trailer. Every slot is then the byte at its
own place, and writing the fields of the result gives those of the text
in lower case. -/
theorem decode_trailing_writes_back {validation : Validation}
    (hchecks : validation ≠ .permissive) (text : String) :
    ((∃ c, decode { padding := .trailing, validation } text = .ok c) ↔
      text.toList.length = descriptorLength ∧
        (∀ c ∈ text.toList, Text.isAscii c = true) ∧
        (∀ c ∈ Text.span text.toList 4 22, Text.isHexDigit c = true) ∧
        (validation = .full → declared text.toList = referenced text.toList) ∧
        (referenced text.toList = 0 ∨
          (∀ c ∈ Text.span text.toList 22 66, Text.isHexDigit c = true) ∧
            referenced text.toList ≤ 22 ∧
            trailerByte text.toList (referenced text.toList - 1) ≠ 0xff ∧
            ∀ i, referenced text.toList ≤ i → i < 22 → trailerByte text.toList i = 0xff)) ∧
      ∀ c, decode { padding := .trailing, validation } text = .ok c →
        (0 < referenced text.toList →
          (∀ i < referenced text.toList, ∃ p slot, c.params[i]? = some p ∧
            p.slot = some slot ∧ slot.toNat = trailerByte text.toList i) ∧
          c.fields = (Text.span text.toList 4 66).map Char.toLower) ∧
        (referenced text.toList = 0 →
          Layout.numbers c.referenceCount c.bitmap =
            (Text.span text.toList 4 22).map Char.toLower) := by
  refine ⟨?_, fun c hc => ?_⟩
  · rw [← accepted_trailing_iff hchecks]
    constructor
    · rintro ⟨c, hc⟩
      exact (decode_eq_ok_iff.1 hc).1
    · intro hacc
      exact ⟨_, decode_eq_ok_iff.2 ⟨hacc, rfl⟩⟩
  · obtain ⟨hacc, rfl⟩ := decode_eq_ok_iff.1 hc
    have hnumbers := numbers_config hacc.toReadable .trailing
    refine ⟨fun hpos => ?_, fun _ => hnumbers⟩
    have hsome : referenced text.toList ≠ 0 := Nat.ne_of_gt hpos
    have hdigits := hacc.trailer_digits hsome
    have hcount := hacc.slot_count hsome hchecks
    refine ⟨fun i hi => getElem?_params_config hacc.length_eq hdigits hcount hi, ?_⟩
    rw [CallConfig.fields, Layout.fields, hnumbers, slots_config hcount,
      trailer_slots hacc.length_eq hdigits, trailer, ← List.map_append,
      Text.span_append (by omega) (by omega)]

/-- The filler byte is a slot like any other where it is not the last. -/
theorem decode_trailing_writes_back_inner_filler :
    ∃ c, decode { padding := .trailing, validation := .full }
        "0x02038000000000000021Ff0afEfFfFfFfFfFfFfFfFfFfFfFfFfFfFfFfFfFfFfF" = .ok c ∧
      c.fields = "038000000000000021ff0afeffffffffffffffffffffffffffffffffffffff".toList := by
  have h := decode_trailing_writes_back (show Validation.full ≠ .permissive by decide)
    "0x02038000000000000021Ff0afEfFfFfFfFfFfFfFfFfFfFfFfFfFfFfFfFfFfFfF"
  have hfill : ∀ i < 22, 3 ≤ i → Reading.trailerByte
      "0x02038000000000000021Ff0afEfFfFfFfFfFfFfFfFfFfFfFfFfFfFfFfFfFfFfF".toList i = 0xff := by
    decide +kernel
  obtain ⟨c, hc⟩ := h.1.2 ⟨by decide, List.all_eq_true.1 (by decide),
    List.all_eq_true.1 (by decide), by decide +kernel,
    .inr ⟨List.all_eq_true.1 (by decide), by decide +kernel, by decide +kernel,
      fun i hi hlt => hfill i hlt hi⟩⟩
  exact ⟨c, hc, ((h.2 c hc).1 (by decide +kernel)).2.trans (by decide)⟩

end CallDescriptor
