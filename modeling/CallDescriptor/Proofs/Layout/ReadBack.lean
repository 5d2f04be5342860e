import CallDescriptor.Layout
import CallDescriptor.Proofs.Decoding
/-!
# What was written is read back

A text in the documented layout reads back as the fields it was written
from, in whatever case each digit stands, unless the padding mistakes a
slot for filler. With trailing padding that happens just when the last
slot is the filler byte; with legacy padding just when the digits of the
slots hold two adjacent `f`. A single `f` at the end of the slots is
safe there, although the filler behind it continues the run: an even
number of `f` is added, and pairs go from the left.
-/

namespace CallDescriptor

/-- The positions of the set bits in descending order, each with its slot. -/
def Layout.params (bitmap : UInt64) (slots : List UInt8) : List Param :=
  List.zipWith (fun bit slot => { position := bit.toUInt8, slot := some slot })
    ((List.range 64).reverse.filter bitmap.toNat.testBit) slots

/-- What a descriptor in the documented layout is about. -/
def Layout.config (callTypeDigit : Char) (referenceCount : UInt8) (bitmap : UInt64)
    (slots : List UInt8) : CallConfig where
  callType := .ofDigit callTypeDigit
  referenceCount := referenceCount
  bitmap := bitmap
  params := Layout.params bitmap slots

variable {cs : List Char} {referenceCount : UInt8} {bitmap : UInt64} {slots : List UInt8}

namespace Layout

theorem params_eq (bitmap : UInt64) (slots : List UInt8) :
    params bitmap slots = List.zipWith Param.withSlot (Param.ofBitmap bitmap) slots := by
  rw [params, ← setBits_eq, Param.ofBitmap, List.zipWith_map_left]
  rfl

/-- Slots are written first, and filler behind them. -/
theorem trailer_eq (slots : List UInt8) :
    trailer slots = slots.flatMap Hex.ofByte ++
      List.replicate (2 * (trailerBytes - slots.length)) 'f' := by
  rw [trailer, List.flatMap_append, flatMap_ofByte_replicate_filler]

theorem length_trailer (h : slots.length ≤ trailerBytes) : (trailer slots).length = 44 := by
  rw [trailer_eq, List.length_append, Hex.length_flatMap_ofByte, List.length_replicate]
  rw [trailerBytes] at h ⊢
  omega

theorem length_numbers (referenceCount : UInt8) (bitmap : UInt64) :
    (numbers referenceCount bitmap).length = 18 := by
  rw [numbers, List.length_append, Hex.ofByte, Hex.ofWord, Hex.length_ofNat, Hex.length_ofNat]

/-- The digits of the slots stand behind the number fields. -/
theorem digits_of_slots (referenceCount : UInt8) (bitmap : UInt64) (slots : List UInt8) :
    ((fields referenceCount bitmap slots).drop 18).take (2 * slots.length) =
      slots.flatMap Hex.ofByte := by
  rw [fields, ← length_numbers referenceCount bitmap, List.drop_left, trailer_eq,
    List.take_left' (Hex.length_flatMap_ofByte slots)]

theorem isHexDigit_of_mem_fields {c : Char} (h : c ∈ fields referenceCount bitmap slots) :
    Text.isHexDigit c = true := by
  rw [fields, numbers, List.mem_append, List.mem_append] at h
  rcases h with (h | h) | h
  · exact Hex.isHexDigit_of_mem_ofNat h
  · exact Hex.isHexDigit_of_mem_ofNat h
  · exact Hex.isHexDigit_of_mem_flatMap_ofByte h

end Layout

/-- A text in the documented layout: four characters of which the last is
the call-type digit, and the fields, each digit in any case. -/
structure LaidOut (cs : List Char) (referenceCount : UInt8) (bitmap : UInt64)
    (slots : List UInt8) : Prop where
  length_eq : cs.length = descriptorLength
  ascii : ∀ c ∈ cs, Text.isAscii c = true
  fields_eq : (Text.span cs 4 66).map Char.toLower = Layout.fields referenceCount bitmap slots

/-- Fields behind four characters in ASCII are laid out. -/
theorem laidOut_of_body {marker₀ marker₁ unread callTypeDigit : Char} {body : List Char}
    (hascii : ∀ c ∈ [marker₀, marker₁, unread, callTypeDigit], Text.isAscii c = true)
    (hroom : slots.length ≤ 22)
    (hbody : body.map Char.toLower = Layout.fields referenceCount bitmap slots) :
    LaidOut (marker₀ :: marker₁ :: unread :: callTypeDigit :: body) referenceCount bitmap
      slots := by
  have hlen : body.length = 62 := by
    rw [← List.length_map (f := Char.toLower), hbody, Layout.fields, List.length_append,
      Layout.length_numbers, Layout.length_trailer hroom]
  have hspan : Text.span (marker₀ :: marker₁ :: unread :: callTypeDigit :: body) 4 66 = body :=
    List.take_of_length_le (Nat.le_of_eq hlen)
  refine ⟨?_, fun c hc => ?_, by rw [hspan, hbody]⟩
  · show body.length + 4 = 66
    rw [hlen]
  · rcases List.mem_append.1 (show c ∈ [marker₀, marker₁, unread, callTypeDigit] ++ body from hc)
      with hc | hc
    · exact hascii c hc
    · have hmem := List.mem_map_of_mem (f := Char.toLower) hc
      rw [hbody] at hmem
      have hdigit := Layout.isHexDigit_of_mem_fields hmem
      rw [Text.isHexDigit_toLower] at hdigit
      exact Text.isAscii_of_isHexDigit hdigit

namespace LaidOut

variable (h : LaidOut cs referenceCount bitmap slots)
include h

theorem isHexDigit_of_mem {c : Char} (hc : c ∈ Text.span cs 4 66) : Text.isHexDigit c = true := by
  rw [← Text.isHexDigit_toLower]
  have hmem := List.mem_map_of_mem (f := Char.toLower) hc
  rw [h.fields_eq] at hmem
  exact Layout.isHexDigit_of_mem_fields hmem

theorem readable : Reading.Readable cs :=
  ⟨h.length_eq, h.ascii, fun _ hc =>
    h.isHexDigit_of_mem (Text.mem_span_mono (by omega) (by omega) hc)⟩

/-- A field is where the ones before it end. -/
theorem map_span (first : Nat) {last : Nat} (hlast : 4 + last ≤ 66) :
    (Text.span cs (4 + first) (4 + last)).map Char.toLower =
      Text.span (Layout.fields referenceCount bitmap slots) first last := by
  rw [← h.fields_eq, ← Text.map_span, Text.span_span hlast]

theorem declared_eq : Reading.declared cs = referenceCount.toNat := by
  have hspan : (Text.span cs 4 6).map Char.toLower = Hex.ofByte referenceCount := by
    have hlen : 0 + (Hex.ofByte referenceCount).length = 2 := by
      rw [Hex.ofByte, Hex.length_ofNat]
    rw [h.map_span 0 (by decide : 4 + 2 ≤ 66), Layout.fields, Layout.numbers, List.append_assoc,
      ← List.nil_append (Hex.ofByte referenceCount ++ _)]
    exact Text.span_middle List.length_nil hlen
  rw [Reading.declared, ← Text.digitsValue_map_toLower fun c hc =>
    h.isHexDigit_of_mem (Text.mem_span_mono (by omega) (by omega) hc), hspan, Hex.ofByte,
    Hex.digitsValue_ofNat]
  exact Nat.mod_eq_of_lt referenceCount.toNat_lt

theorem bitmap_eq : Reading.bitmap cs = bitmap := by
  have hspan : (Text.span cs 6 22).map Char.toLower = Hex.ofWord bitmap := by
    rw [h.map_span 2 (by decide : 4 + 18 ≤ 66), Layout.fields, Layout.numbers,
      List.append_assoc]
    exact Text.span_middle (Hex.length_ofNat 2 _) (by rw [Hex.ofWord, Hex.length_ofNat])
  have hlt : bitmap.toNat < 16 ^ 16 := bitmap.toNat_lt
  rw [Reading.bitmap, ← Text.digitsValue_map_toLower fun c hc =>
    h.isHexDigit_of_mem (Text.mem_span_mono (by omega) (by omega) hc), hspan, Hex.ofWord,
    Hex.digitsValue_ofNat, Nat.mod_eq_of_lt hlt, UInt64.ofNat_toNat]

theorem trailer_eq : (Reading.trailer cs).map Char.toLower = Layout.trailer slots := by
  have hnumbers := Layout.length_numbers referenceCount bitmap
  have hlen := congrArg List.length h.fields_eq
  rw [List.length_map, Reading.length_span_of_length h.length_eq (by decide), Layout.fields,
    List.length_append, hnumbers] at hlen
  have htrailer : 18 + (Layout.trailer slots).length = 62 := by omega
  have hmiddle : Text.span (Layout.numbers referenceCount bitmap ++ (Layout.trailer slots ++ []))
      18 62 = Layout.trailer slots := Text.span_middle hnumbers htrailer
  rw [List.append_nil] at hmiddle
  rw [Reading.trailer, h.map_span 18 (by decide : 4 + 62 ≤ 66), Layout.fields, hmiddle]

/-- The digits of the trailer spell the slots and filler. -/
theorem octets_trailer : Hex.octets (Reading.trailer cs) =
    slots ++ List.replicate (Layout.trailerBytes - slots.length) filler := by
  have hdigits : ∀ c ∈ Reading.trailer cs, Text.isHexDigit c = true :=
    fun c hc => h.isHexDigit_of_mem (Text.mem_span_mono (by omega) (Nat.le_refl 66) hc)
  rw [← Hex.octets_map_toLower hdigits, h.trailer_eq, Layout.trailer, Hex.octets_flatMap_ofByte]

/-! ### The slots, read back -/

theorem slots_trailing : Reading.slots cs .trailing = dropFiller slots := by
  rw [Reading.slots, slotsLeft, h.octets_trailer, dropFiller_append_replicate]

theorem slots_legacy :
    Reading.slots cs .legacy = Hex.octets (dropPairs (slots.flatMap Hex.ofByte)) := by
  rw [Reading.slots, slotsLeft, h.trailer_eq, Layout.trailer_eq, dropPairs_append_replicate]

/-- **Trailing padding keeps the slots** unless filler ends them. -/
theorem slots_trailing_eq_iff :
    Reading.slots cs .trailing = slots ↔ slots.getLast? ≠ some filler := by
  rw [h.slots_trailing]
  exact ⟨fun heq => heq ▸ getLast?_dropFiller slots, dropFiller_eq_self⟩

/-- **Legacy padding keeps the slots** unless their digits hold a pair. -/
theorem slots_legacy_eq_iff :
    Reading.slots cs .legacy = slots ↔ ¬ ['f', 'f'] <:+: slots.flatMap Hex.ofByte := by
  rw [h.slots_legacy]
  constructor
  · intro heq hpair
    -- a pair that went leaves fewer slots
    have hlt := length_dropPairs_lt hpair
    have hlen := congrArg List.length heq
    rw [Hex.length_octets] at hlen
    rw [Hex.length_flatMap_ofByte] at hlt
    omega
  · intro hpair
    rw [dropPairs_eq_self hpair, Hex.octets_flatMap_ofByte]

/-- Neither padding makes slots up. -/
theorem length_slots_le (padding : Padding) : (Reading.slots cs padding).length ≤ slots.length := by
  cases padding with
  | trailing =>
    rw [h.slots_trailing]
    exact length_dropFiller_le slots
  | legacy =>
    have hle := (dropPairs_sublist (slots.flatMap Hex.ofByte)).length_le
    rw [Hex.length_flatMap_ofByte] at hle
    rw [h.slots_legacy, Hex.length_octets]
    omega

/-- **The text reads back just if its slots do**, as long as its reference
count is not checked against them. -/
theorem decode_eq_ok_iff {text : String} (htext : text.toList = cs) {validation : Validation}
    (hcount : slots.length = bitCount bitmap) (hfull : validation ≠ .full) (padding : Padding) :
    decode { padding, validation } text =
        .ok (Layout.config (cs.getD 3 '0') referenceCount bitmap slots) ↔
      Reading.slots cs padding = slots := by
  subst htext
  have hreferenced : Reading.referenced text.toList = slots.length := by
    rw [Reading.referenced, h.bitmap_eq, hcount]
  have hmarked : slots.length = (Param.ofBitmap bitmap).length := by
    rw [Param.length_ofBitmap, hcount]
  have hdigits : ∀ c ∈ Reading.trailer text.toList, Text.isHexDigit c = true :=
    fun c hc => h.isHexDigit_of_mem (Text.mem_span_mono (by omega) (Nat.le_refl 66) hc)
  have hfresh : ∀ p ∈ Param.ofBitmap bitmap, p.slot = none :=
    fun p hp => Param.slot_of_mem_ofBitmap hp
  have hpaired := pairFromRight_eq_zipWith_iff hfresh
    (hmarked ▸ h.length_slots_le padding) hmarked
  have hconfig : Layout.config (text.toList.getD 3 '0') referenceCount bitmap slots =
      Reading.config text.toList padding ↔ Reading.slots text.toList padding = slots := by
    rw [← hpaired, ← Layout.params_eq, Layout.config, Reading.config, CallConfig.mk.injEq,
      h.declared_eq, h.bitmap_eq, UInt8.ofNat_toNat]
    exact ⟨fun heq => heq.2.2.2.symm, fun heq => ⟨rfl, rfl, rfl, heq.symm⟩⟩
  rw [CallDescriptor.decode_eq_ok_iff, hconfig]
  refine ⟨fun hacc => hacc.2, fun heq => ⟨⟨h.readable, fun hval => absurd hval hfull,
    fun _ => hdigits, fun _ _ => ?_⟩, heq⟩⟩
  show (Reading.slots text.toList padding).length = _
  rw [heq, hreferenced]

end LaidOut

/-- **A descriptor in the documented layout reads back just if its padding
allows it.** The marker and the first digit of the call-type byte are
free, every digit of the fields may have either case, and there is one
slot for each set bit. With trailing padding the descriptor reads back as
its fields unless its last slot is the filler byte; with legacy padding
unless two adjacent digits of its slots are both `f`. -/
theorem decode_layout_iff {marker₀ marker₁ unread callTypeDigit : Char} {body : List Char}
    {validation : Validation}
    (hascii : ∀ c ∈ [marker₀, marker₁, unread, callTypeDigit], Text.isAscii c = true)
    (hcount : slots.length = bitCount bitmap) (hroom : slots.length ≤ 22)
    (hbody : body.map Char.toLower = Layout.fields referenceCount bitmap slots)
    (hfull : validation ≠ .full) :
    (decode { padding := .trailing, validation }
          (String.ofList (marker₀ :: marker₁ :: unread :: callTypeDigit :: body)) =
        .ok (Layout.config callTypeDigit referenceCount bitmap slots) ↔
      slots = [] ∨ slots.getLast? ≠ some 0xff) ∧
    (decode { padding := .legacy, validation }
          (String.ofList (marker₀ :: marker₁ :: unread :: callTypeDigit :: body)) =
        .ok (Layout.config callTypeDigit referenceCount bitmap slots) ↔
      ¬ ['f', 'f'] <:+: ((body.drop 18).take (2 * slots.length)).map Char.toLower) := by
  have h := laidOut_of_body hascii hroom hbody
  have hlegacy := h.decode_eq_ok_iff String.toList_ofList hcount hfull .legacy
  have htrailing := h.decode_eq_ok_iff String.toList_ofList hcount hfull .trailing
  rw [h.slots_trailing_eq_iff] at htrailing
  rw [h.slots_legacy_eq_iff, ← Layout.digits_of_slots referenceCount bitmap, ← hbody,
    ← List.map_drop, ← List.map_take] at hlegacy
  refine ⟨htrailing.trans ⟨.inr, fun hlast => ?_⟩, hlegacy⟩
  rcases hlast with rfl | hlast
  · exact nofun
  · exact hlast

/-- In upper case, and with a last slot that ends in `f`, which either
padding keeps. -/
theorem decode_layout_upper_case :
    decode { padding := .trailing, validation := .slots }
        (String.ofList ('0' :: 'X' :: '0' :: '1' ::
          (Layout.fields 7 0x8000000000000021 [0x1f, 0x0a, 0x0f]).map Char.toUpper)) =
      .ok (Layout.config '1' 7 0x8000000000000021 [0x1f, 0x0a, 0x0f]) ∧
    decode { padding := .legacy, validation := .slots }
        (String.ofList ('0' :: 'X' :: '0' :: '1' ::
          (Layout.fields 7 0x8000000000000021 [0x1f, 0x0a, 0x0f]).map Char.toUpper)) =
      .ok (Layout.config '1' 7 0x8000000000000021 [0x1f, 0x0a, 0x0f]) := by
  have hascii : ∀ c ∈ ['0', 'X', '0', '1'], Text.isAscii c = true :=
    List.all_eq_true.1 (by decide)
  exact ⟨(decode_layout_iff hascii (by decide) (by decide) (by decide) (by decide)).1.2
      (by decide),
    (decode_layout_iff hascii (by decide) (by decide) (by decide) (by decide)).2.2 (by decide)⟩

end CallDescriptor
