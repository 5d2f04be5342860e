import CallDescriptor.Proofs.Layout.WriteBack
import CallDescriptor.Proofs.Options
import CallDescriptor.Proofs.Representation
import CallDescriptor.Report
/-!
# The report echoes its descriptor

A report for a reader is written from a configuration. Here it is written
from the characters of the descriptor instead: the bitmap is in the report as
it stood, in lower case, and the positions are the bits of the number that it
spells. Whatever the options are, there is one line for each position, in the
order of the list; where slots are validated and filler stands behind them
the lines name the bytes of the trailer from the left
(`report_text_echoes`).
-/

namespace CallDescriptor

/-! ## The lines as positions and slots -/

namespace Report

/-- The line for a position, with its slot if it has one. -/
def line (position : Nat) (slot : Option Nat) : List Char :=
  "replace params[".toList ++ decimal position ++ "] <- local stack[".toList ++
    slot.elim "<unassigned>".toList decimal ++ "]\n".toList

/-- The slots of params as numbers. -/
def slotNumbers (params : List Param) : List (Option Nat) :=
  params.map fun p => p.slot.map UInt8.toNat

theorem paramLine_eq_line (p : Param) :
    paramLine p = line p.position.toNat (p.slot.map UInt8.toNat) := by
  obtain ⟨position, slot⟩ := p
  cases slot with
  | none => rfl
  | some s => rfl

/-- **The lines pair positions with slots.** -/
theorem flatMap_paramLine_eq (params : List Param) :
    params.flatMap paramLine =
      (List.zipWith line (params.map fun p => p.position.toNat) (slotNumbers params)).flatten := by
  rw [slotNumbers, List.zipWith_map, List.zipWith_self, List.flatMap]
  congr 1
  exact List.map_congr_left fun p _ => paramLine_eq_line p

theorem positionList_eq (positions : List UInt8) :
    positionList positions =
      List.intercalate ", ".toList ((positions.map UInt8.toNat).map decimal) := by
  rw [positionList, List.map_map]
  rfl

end Report

/-! ## What the characters say -/

namespace Reading

variable {cs : List Char}

/-- The bits of the number that the bitmap spells, from the highest down. -/
def marked (cs : List Char) : List Nat :=
  (List.range 64).reverse.filter (Text.digitsValue 16 (Text.span cs 6 22)).testBit

/-- The scan of the bitmap finds them, however narrow the number is. -/
theorem setBits_bitmap (h : Readable cs) : setBits (bitmap cs) = marked cs := by
  rw [setBits_eq, h.toNat_bitmap, marked]

theorem mem_marked (h : Readable cs) {bit : Nat} :
    bit ∈ marked cs ↔ (Text.digitsValue 16 (Text.span cs 6 22)).testBit bit = true := by
  rw [← setBits_bitmap h, mem_setBits, h.toNat_bitmap]

theorem pairwise_marked (h : Readable cs) : (marked cs).Pairwise (· > ·) := by
  rw [← setBits_bitmap h]
  exact pairwise_setBits (bitmap cs)

theorem length_marked (h : Readable cs) : (marked cs).length = referenced cs := by
  rw [← setBits_bitmap h, length_setBits, referenced]

theorem map_toNat_positions_config (h : Readable cs) (padding : Padding) :
    (config cs padding).positions.map UInt8.toNat = marked cs := by
  have hparams : (config cs padding).params =
      pairFromRight (Param.ofBitmap (config cs padding).bitmap) (slots cs padding) := rfl
  rw [← setBits_bitmap h]
  exact CallConfig.map_toNat_positions hparams

/-- **Slots are the bytes of the trailer**, where there is one for each param. -/
theorem getElem?_slotNumbers_config (h : cs.length = descriptorLength)
    (hdigits : ∀ c ∈ trailer cs, Text.isHexDigit c = true)
    (hcount : (slots cs .trailing).length = referenced cs) {i : Nat} (hi : i < referenced cs) :
    (Report.slotNumbers (config cs .trailing).params)[i]? = some (some (trailerByte cs i)) := by
  obtain ⟨p, slot, hp, hslot, hbyte⟩ := getElem?_params_config h hdigits hcount hi
  rw [Report.slotNumbers, List.getElem?_map, hp, Option.map_some, hslot, Option.map_some, hbyte]

end Reading

open Reading in
/-- **The report echoes its descriptor.** All of it but the slots is written
from the characters: the descriptor itself, the words for its call type, the
declared count, the sixteen digits of the bitmap in lower case and, from the
highest down, the bits of their number. There is a slot, or the words for
none, for each of these bits, and one line for each in the same order. With
trailing padding and validated slots the lines name the bytes of the trailer
one after the other. -/
theorem report_text_echoes {options : Options} {raw : String} {c : CallConfig}
    (h : decode options raw = .ok c) :
    (report raw c .text).toList =
        "CONFIG:".toList ++ raw.toList ++
          "\nParam Type: \t\t\t".toList ++
            (CallType.ofDigit (raw.toList.getD 3 '0')).label.toList ++
          "\nReference Count: \t\t".toList ++
            Report.decimal (Text.digitsValue 16 (Text.span raw.toList 4 6)) ++
          "\nParam Config:(".toList ++ (Text.span raw.toList 6 22).map Char.toLower ++
          ") [".toList ++
            List.intercalate ", ".toList ((marked raw.toList).map Report.decimal) ++
          "]\n========= reference config ===========\n".toList ++
          (List.zipWith Report.line (marked raw.toList) (Report.slotNumbers c.params)).flatten ∧
      (∀ bit, bit ∈ marked raw.toList ↔
        (Text.digitsValue 16 (Text.span raw.toList 6 22)).testBit bit = true) ∧
      (marked raw.toList).Pairwise (· > ·) ∧
      (Report.slotNumbers c.params).length = (marked raw.toList).length ∧
      (options.padding = .trailing → options.validation ≠ .permissive →
        ∀ i < (marked raw.toList).length,
          (Report.slotNumbers c.params)[i]? = some (some (trailerByte raw.toList i))) := by
  obtain ⟨hacc, rfl⟩ := decode_eq_ok_iff.1 h
  have hread := hacc.toReadable
  have hpositions := map_toNat_positions_config hread options.padding
  have hlength := length_marked hread
  refine ⟨?_, fun bit => mem_marked hread, pairwise_marked hread, ?_, ?_⟩
  · have hcallType : (config raw.toList options.padding).callType =
        .ofDigit (raw.toList.getD 3 '0') := rfl
    have hcount : (config raw.toList options.padding).referenceCount.toNat =
        Text.digitsValue 16 (Text.span raw.toList 4 6) :=
      toNat_referenceCount_config hread options.padding
    have hbitmap : Hex.ofWord (config raw.toList options.padding).bitmap =
        (Text.span raw.toList 6 22).map Char.toLower := ofWord_bitmap hread
    have hlines : (config raw.toList options.padding).params.map (fun p => p.position.toNat) =
        marked raw.toList := by
      rw [← hpositions, CallConfig.positions, List.map_map]
      rfl
    rw [report, String.toList_ofList]
    unfold Report.text
    rw [hcallType, hcount, hbitmap,
      Report.positionList_eq, hpositions, Report.flatMap_paramLine_eq, hlines]
  · rw [Report.slotNumbers, List.length_map, length_params_config, hlength]
  · intro hpadding hchecks i hi
    rw [hlength] at hi
    -- a position means that there are params, so the trailer has been read
    have hsome : referenced raw.toList ≠ 0 := by omega
    have hdigits := hacc.trailer_digits hsome
    have hcount := hacc.slot_count hsome hchecks
    rw [hpadding] at hcount ⊢
    exact getElem?_slotNumbers_config hacc.length_eq hdigits hcount hi

/-- Leading zeros and both cases in the bitmap, and the filler byte as a slot. -/
theorem report_text_echoes_mixed_case :
    ∃ c, decode { padding := .trailing, validation := .full }
        "0x0303000000000A000010Ff0A10fFfFfFfFfFfFfFfFfFfFfFfFfFfFfFfFfFfFfF" = .ok c ∧
      (report "0x0303000000000A000010Ff0A10fFfFfFfFfFfFfFfFfFfFfFfFfFfFfFfFfFfFfF" c .text).toList =
        ["CONFIG:0x0303000000000A000010Ff0A10fFfFfFfFfFfFfFfFfFfFfFfFfFfFfFfFfFfFfF\n",
          "Param Type: \t\t\tdynamic call\n",
          "Reference Count: \t\t3\n",
          "Param Config:(000000000a000010) [27, 25, 4]\n",
          "========= reference config ===========\n",
          "replace params[27] <- local stack[255]\n",
          "replace params[25] <- local stack[10]\n",
          "replace params[4] <- local stack[16]\n"].flatMap String.toList ∧
      (Report.slotNumbers c.params)[0]? = some (some 0xff) := by
  have h : decode { padding := .trailing, validation := .full }
      "0x0303000000000A000010Ff0A10fFfFfFfFfFfFfFfFfFfFfFfFfFfFfFfFfFfFfF" =
        .ok ⟨.dynamicCall, 3, 0x0a000010, [⟨27, some 255⟩, ⟨25, some 10⟩, ⟨4, some 16⟩]⟩ := by
    decide +kernel
  obtain ⟨htext, -, -, -, hslots⟩ := report_text_echoes h
  refine ⟨_, h, ?_, ?_⟩
  · rw [htext]
    decide +kernel
  · rw [hslots rfl (by decide) 0 (by decide +kernel)]
    decide +kernel

end CallDescriptor
