import CallDescriptor.Decode
import CallDescriptor.Proofs.Filler
import CallDescriptor.Proofs.Pairing
/-!
# Decoding in one equation

What the fields of a text say is a plain function of its characters, and
so is the configuration they make (`Reading.config`). Decoding is a fixed
chain of checks in front of that configuration, `decode_eq`; every
property of decoding is read off this equation, and none of the stages
is opened again.
-/

namespace CallDescriptor

/-! ## What the fields say -/

namespace Reading

variable (cs : List Char)

/-- The declared reference count. -/
def declared : Nat := Text.digitsValue 16 (Text.span cs 4 6)

/-- The bitmap of referenced params. -/
def bitmap : UInt64 := UInt64.ofNat (Text.digitsValue 16 (Text.span cs 6 22))

/-- The number of referenced params. -/
def referenced : Nat := bitCount (bitmap cs)

/-- The trailer as written. -/
def trailer : List Char := Text.span cs 22 66

/-- The slots that the trailer holds. -/
def slots (padding : Padding) : List UInt8 := slotsLeft padding (trailer cs)

/-- The configuration that the fields make. -/
def config (padding : Padding) : CallConfig where
  callType := .ofDigit (cs.getD 3 '0')
  referenceCount := UInt8.ofNat (declared cs)
  bitmap := bitmap cs
  params := pairFromRight (Param.ofBitmap (bitmap cs)) (slots cs padding)

/-- The checks behind the number fields, with the configuration behind
them. Without a referenced param nothing of the trailer is checked. -/
def checked (options : Options) : Except DecodeError CallConfig :=
  if options.validation = .full ∧ declared cs ≠ referenced cs then
    .error (.referenceCount (declared cs) (referenced cs))
  else if referenced cs = 0 then .ok (config cs options.padding)
  else blameFirst Text.isHexDigit 22 (trailer cs) <|
    if options.validation ≠ .permissive ∧ (slots cs options.padding).length ≠ referenced cs then
      .error (.slotCount (slots cs options.padding).length (referenced cs))
    else .ok (config cs options.padding)

variable {cs}

theorem length_span_of_length {first last : Nat} (h : cs.length = descriptorLength)
    (hlast : last ≤ descriptorLength) : (Text.span cs first last).length = last - first := by
  rw [Text.length_span, h]
  omega

/-- The fields end where the text does. -/
theorem span_whole (h : cs.length = descriptorLength) : Text.span cs 0 66 = cs := by
  have hwhole := Text.span_zero_length cs
  rw [h] at hwhole
  exact hwhole

@[simp] theorem length_trailer (h : cs.length = descriptorLength) : (trailer cs).length = 44 :=
  length_span_of_length h (Nat.le_refl _)

/-- The trailer has room for twenty-two slots. -/
theorem length_slots_le (h : cs.length = descriptorLength) (padding : Padding) :
    (slots cs padding).length ≤ 22 := by
  have hle := length_slotsLeft_le padding (trailer cs)
  rw [length_trailer h] at hle
  exact hle

/-- A trailer of digits has slot bytes: none is left without a partner. -/
theorem slotBytes_trailer (h : cs.length = descriptorLength) (padding : Padding) :
    slotBytes padding (trailer cs) =
      blameFirst Text.isHexDigit 22 (trailer cs) (.ok (slots cs padding)) := by
  have heven : (trailer cs).length % 2 = 0 := by rw [length_trailer h]
  rw [slotBytes_eq, if_pos heven]
  rfl

/-- Two digits fit into a byte. -/
theorem declared_lt (h : cs.length = descriptorLength)
    (hdigits : ∀ c ∈ Text.span cs 4 6, Text.isHexDigit c = true) : declared cs < 256 := by
  have hlt := Text.digitsValue_lt hdigits
  rw [length_span_of_length h (by decide)] at hlt
  exact hlt

/-- Sixteen digits fit into the bitmap. -/
theorem toNat_bitmap (h : cs.length = descriptorLength)
    (hdigits : ∀ c ∈ Text.span cs 6 22, Text.isHexDigit c = true) :
    (bitmap cs).toNat = Text.digitsValue 16 (Text.span cs 6 22) := by
  have hlt := Text.digitsValue_lt hdigits
  rw [length_span_of_length h (by decide)] at hlt
  rw [bitmap, UInt64.toNat_ofNat']
  exact Nat.mod_eq_of_lt hlt

/-- The fields make the configuration, its params among them. -/
theorem mk_params_config (cs : List Char) (padding : Padding) :
    CallConfig.mk (.ofDigit (cs.getD 3 '0')) (UInt8.ofNat (declared cs)) (bitmap cs)
      (config cs padding).params = config cs padding := by
  rw [config]

/-- There are no params but those the bitmap marks. -/
theorem params_config_of_referenced_eq_zero (h : referenced cs = 0) (padding : Padding) :
    (config cs padding).params = [] := by
  rw [← List.length_eq_zero_iff, config, length_pairFromRight, Param.length_ofBitmap]
  exact h

end Reading

/-! ## The stages -/

theorem outcome_checkReferenceCount (validation : Validation) (declared referenced : Nat) :
    (checkReferenceCount validation declared referenced).outcome =
      if validation = .full ∧ declared ≠ referenced then
        .error (.referenceCount declared referenced)
      else .ok () := by
  unfold checkReferenceCount
  by_cases hcount : declared = referenced
  · rw [if_pos hcount, if_neg fun h => h.2 hcount]
    rfl
  · rw [if_neg hcount]
    cases validation with
    | permissive => rfl
    | slots => rfl
    | full => exact (if_pos ⟨rfl, hcount⟩).symm

namespace Descriptor

variable (d : Descriptor)

theorem referenceCount_eq :
    d.referenceCount = blameFirst Text.isHexDigit 4 (Text.span d.text.toList 4 6)
      (.ok (UInt8.ofNat (Reading.declared d.text.toList))) := by
  have hword : (UInt64.ofNat (Reading.declared d.text.toList)).toUInt8 =
      UInt8.ofNat (Reading.declared d.text.toList) := by
    rw [← UInt8.toNat_inj, UInt64.toNat_toUInt8, UInt64.toNat_ofNat', UInt8.toNat_ofNat']
    omega
  rw [referenceCount, Hex.word_eq, blameFirst_bind, ← hword]
  rfl

theorem bitmap_eq :
    d.bitmap = blameFirst Text.isHexDigit 6 (Text.span d.text.toList 6 22)
      (.ok (Reading.bitmap d.text.toList)) :=
  Hex.word_eq 6 d.bitmapDigits

theorem callTypeDigit_eq : d.callTypeDigit = d.text.toList.getD 3 '0' := by
  have hlt : 3 < d.text.toList.length := by rw [d.length_eq]; decide
  rw [List.getD_eq_getElem?_getD, List.getElem?_eq_getElem hlt]
  rfl

/-- **The slots a descriptor assigns.** Its trailer has an even number of
digits, so none is left without a partner. -/
theorem outcome_assign (options : Options) :
    (assignSlots options d.trailer (Param.ofBitmap (Reading.bitmap d.text.toList))).outcome =
      if Reading.referenced d.text.toList = 0 then .ok []
      else blameFirst Text.isHexDigit 22 (Reading.trailer d.text.toList) <|
        if options.validation ≠ .permissive ∧
            (Reading.slots d.text.toList options.padding).length ≠
              Reading.referenced d.text.toList then
          .error (.slotCount (Reading.slots d.text.toList options.padding).length
            (Reading.referenced d.text.toList))
        else .ok (Reading.config d.text.toList options.padding).params := by
  have htrailer : d.trailer = Reading.trailer d.text.toList := rfl
  have heven : (Reading.trailer d.text.toList).length % 2 = 0 := by
    rw [Reading.length_trailer d.length_eq]
  rw [outcome_assignSlots]
  by_cases hnone : Reading.referenced d.text.toList = 0
  · rw [if_pos (Param.ofBitmap_eq_nil_iff.2 hnone), if_pos hnone]
  · rw [if_neg (mt Param.ofBitmap_eq_nil_iff.1 hnone), if_neg hnone, Param.length_ofBitmap,
      htrailer, slotBytes_eq, if_pos heven, blameFirst_bind]
    refine blameFirst_congr fun _ => ?_
    show (if _ then _ else _) = _
    rw [Reading.config, Reading.slots, Reading.referenced]

/-- **What is checked behind the number fields**, once they are read. -/
theorem checked_eq (options : Options)
    (hcount : ∀ c ∈ Text.span d.text.toList 4 6, Text.isHexDigit c = true) :
    ((checkReferenceCount options.validation
        (UInt8.ofNat (Reading.declared d.text.toList)).toNat
        (Param.ofBitmap (Reading.bitmap d.text.toList)).length).outcome >>= fun _ =>
      (assignSlots options d.trailer
        (Param.ofBitmap (Reading.bitmap d.text.toList))).outcome >>= fun params =>
      .ok { callType := .ofDigit d.callTypeDigit
            referenceCount := UInt8.ofNat (Reading.declared d.text.toList)
            bitmap := Reading.bitmap d.text.toList
            params := params }) =
      Reading.checked d.text.toList options := by
  have htoNat : (UInt8.ofNat (Reading.declared d.text.toList)).toNat =
      Reading.declared d.text.toList :=
    UInt8.toNat_ofNat_of_lt' (Reading.declared_lt d.length_eq hcount)
  have hreferenced : (Param.ofBitmap (Reading.bitmap d.text.toList)).length =
      Reading.referenced d.text.toList := Param.length_ofBitmap _
  rw [outcome_checkReferenceCount, htoNat, hreferenced, d.outcome_assign, d.callTypeDigit_eq,
    Reading.checked]
  by_cases hfull : options.validation = .full ∧
      Reading.declared d.text.toList ≠ Reading.referenced d.text.toList
  · rw [if_pos hfull, if_pos hfull]
    rfl
  · rw [if_neg hfull, if_neg hfull]
    by_cases hnone : Reading.referenced d.text.toList = 0
    · rw [if_pos hnone, if_pos hnone,
        ← Reading.params_config_of_referenced_eq_zero hnone options.padding]
      exact congrArg Except.ok (Reading.mk_params_config _ _)
    · rw [if_neg hnone, if_neg hnone]
      show (blameFirst _ _ _ _ >>= fun params => _) = _
      rw [blameFirst_bind]
      refine blameFirst_congr fun _ => ?_
      split
      · rfl
      · exact congrArg Except.ok (Reading.mk_params_config _ _)

end Descriptor

/-! ## Decoding -/

/-- **Decoding is a chain of checks** in front of what the fields say. -/
theorem decode_eq (options : Options) (text : String) :
    decode options text =
      if text.toList.length ≠ descriptorLength then .error (.malformed text.toList.length)
      else blameFirst Text.isAscii 0 text.toList <|
        blameFirst Text.isHexDigit 4 (Text.span text.toList 4 22) <|
          Reading.checked text.toList options := by
  rw [decode, decodeTraced, Traced.outcome_bind]
  by_cases hlen : text.toList.length = descriptorLength
  · rw [if_neg fun h => h hlen]
    refine Descriptor.ofString_bind hlen fun d hd => ?_
    subst hd
    -- the number fields stand side by side, so their checks are one check
    have hsplit : Text.span d.text.toList 4 22 =
        Text.span d.text.toList 4 6 ++ Text.span d.text.toList 6 22 :=
      (Text.span_append (by omega) (by omega)).symm
    have hoffset : 4 + (Text.span d.text.toList 4 6).length = 6 := by
      rw [Reading.length_span_of_length hlen (by decide)]
    simp only [Traced.outcome_bind, Traced.outcome_report, Traced.outcome_pure]
    show (d.referenceCount >>= fun referenceCount => d.bitmap >>= fun bitmap => _) = _
    rw [d.referenceCount_eq, blameFirst_bind, hsplit, blameFirst_append, hoffset]
    refine blameFirst_congr fun hcount => ?_
    show (d.bitmap >>= fun bitmap => _) = _
    rw [d.bitmap_eq, blameFirst_bind]
    congr 1
    exact d.checked_eq options hcount
  · rw [if_pos hlen]
    have herr := Descriptor.ofString_of_length_ne hlen
    show (Descriptor.ofString text >>= fun d => _) = _
    rw [herr]
    rfl

/-! ## What is accepted -/

namespace Reading

/-- A text whose number fields can be read. -/
structure Readable (cs : List Char) : Prop where
  length_eq : cs.length = descriptorLength
  ascii : ∀ c ∈ cs, Text.isAscii c = true
  digits : ∀ c ∈ Text.span cs 4 22, Text.isHexDigit c = true

/-- A text that passes every check. -/
structure Accepted (options : Options) (cs : List Char) : Prop extends Readable cs where
  count : options.validation = .full → declared cs = referenced cs
  trailer_digits : referenced cs ≠ 0 → ∀ c ∈ trailer cs, Text.isHexDigit c = true
  slot_count : referenced cs ≠ 0 → options.validation ≠ .permissive →
    (slots cs options.padding).length = referenced cs

variable {options : Options} {cs : List Char} {c : CallConfig}

namespace Readable

variable (h : Readable cs)
include h

/-- The digits of both fields are digits of each. -/
theorem isHexDigit_of_mem {d : Char} {first last : Nat} (hfirst : 4 ≤ first) (hlast : last ≤ 22)
    (hd : d ∈ Text.span cs first last) : Text.isHexDigit d = true :=
  h.digits d (Text.mem_span_mono hfirst hlast hd)

theorem declared_lt : declared cs < 256 :=
  Reading.declared_lt h.length_eq fun _ hd => h.isHexDigit_of_mem (by omega) (by omega) hd

theorem toNat_bitmap : (bitmap cs).toNat = Text.digitsValue 16 (Text.span cs 6 22) :=
  Reading.toNat_bitmap h.length_eq fun _ hd => h.isHexDigit_of_mem (by omega) (by omega) hd

end Readable

/-- **The checks behind the number fields succeed** just on the texts that
pass them. -/
theorem checked_eq_ok_iff (h : Readable cs) :
    checked cs options = .ok c ↔ Accepted options cs ∧ c = config cs options.padding := by
  rw [checked, ite_error_eq_ok_iff, not_and, not_not]
  by_cases hnone : referenced cs = 0
  · rw [if_pos hnone, Except.ok.injEq]
    constructor
    · rintro ⟨hcount, rfl⟩
      exact ⟨⟨h, hcount, fun hne => absurd hnone hne, fun hne => absurd hnone hne⟩, rfl⟩
    · rintro ⟨hacc, rfl⟩
      exact ⟨hacc.count, rfl⟩
  · rw [if_neg hnone, blameFirst_eq_ok_iff, ite_error_eq_ok_iff, not_and, not_not,
      Except.ok.injEq]
    constructor
    · rintro ⟨hcount, hdigits, hslots, rfl⟩
      exact ⟨⟨h, hcount, fun _ => hdigits, fun _ => hslots⟩, rfl⟩
    · rintro ⟨hacc, rfl⟩
      exact ⟨hacc.count, hacc.trailer_digits hnone, hacc.slot_count hnone, rfl⟩

end Reading

/-- Behind the number fields only `Reading.checked` is left. -/
theorem decode_of_readable {text : String} (h : Reading.Readable text.toList)
    (options : Options) : decode options text = Reading.checked text.toList options := by
  rw [decode_eq, if_neg fun hne => hne h.length_eq, blameFirst_of_forall h.ascii,
    blameFirst_of_forall h.digits]

/-- **Decoding succeeds just on the texts that pass every check**, with
what their fields say. -/
theorem decode_eq_ok_iff {options : Options} {text : String} {c : CallConfig} :
    decode options text = .ok c ↔
      Reading.Accepted options text.toList ∧ c = Reading.config text.toList options.padding := by
  rw [decode_eq, ite_error_eq_ok_iff, not_not, blameFirst_eq_ok_iff, blameFirst_eq_ok_iff]
  constructor
  · rintro ⟨hlen, hascii, hdigits, hchecked⟩
    exact (Reading.checked_eq_ok_iff ⟨hlen, hascii, hdigits⟩).1 hchecked
  · rintro ⟨hacc, rfl⟩
    exact ⟨hacc.length_eq, hacc.ascii, hacc.digits,
      (Reading.checked_eq_ok_iff hacc.toReadable).2 ⟨hacc, rfl⟩⟩

end CallDescriptor
