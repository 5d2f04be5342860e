import CallDescriptor.Proofs.Decoding
import CallDescriptor.Proofs.Guarded.Steps
/-!
# Decoding is never stuck

What the fields of a descriptor need is settled when it is built: the
text is as long as the fields reach, and in ASCII. So they can be cut out
of its bytes (`Descriptor.byteAligned`), and they have no more digits than
their numbers have room for (`Descriptor.noBitLost`). A trailer that is
given on its own may be any text; what is read of it are digits, and the
last of them is there to be blamed. `guarded_never_stuck` puts this
together: with every step guarded, decoding comes to what it comes to
without.
-/

namespace CallDescriptor

open Text

namespace Hex

variable {offset : Nat} {cs : List Char}

/-- A word that is read is the number its digits spell, which is below the
power of their count. -/
theorem toNat_of_word_eq_ok {w : UInt64} (h : word offset cs = .ok w) (hlen : cs.length ≤ 16) :
    w.toNat = digitsValue 16 cs ∧ w.toNat < 16 ^ cs.length := by
  rw [word_eq, blameFirst_eq_ok_iff, Except.ok.injEq] at h
  obtain ⟨hdigits, rfl⟩ := h
  have hlt := digitsValue_lt hdigits
  have hroom : 16 ^ cs.length ≤ 16 ^ 16 := Nat.pow_le_pow_right (by omega) hlen
  have hvalue : (UInt64.ofNat (digitsValue 16 cs)).toNat = digitsValue 16 cs := by
    rw [UInt64.toNat_ofNat']
    exact Nat.mod_eq_of_lt (Nat.lt_of_lt_of_le hlt hroom)
  exact ⟨hvalue, by rwa [hvalue]⟩

/-- A pair of digits is a chunk, and its byte the number it spells. -/
theorem map_toNat_octets (hdigits : ∀ c ∈ cs, isHexDigit c = true) (heven : cs.length % 2 = 0) :
    (octets cs).map UInt8.toNat = (Guarded.chunks 2 cs).map (digitsValue 16) := by
  induction cs using octets.induct with
  | case1 =>
    rw [Guarded.chunks]
    rfl
  | case2 lone =>
    rw [List.length_singleton] at heven
    omega
  | case3 hi lo rest ih =>
    rw [List.forall_mem_cons, List.forall_mem_cons] at hdigits
    obtain ⟨hhi, hlo, hrest⟩ := hdigits
    have hbyte : (UInt8.ofNat (16 * digitValue hi + digitValue lo)).toNat =
        digitsValue 16 [hi, lo] := by
      have := digitValue_lt hhi
      have := digitValue_lt hlo
      rw [UInt8.toNat_ofNat_of_lt' (by rw [UInt8.size]; omega), digitsValue]
      simp only [List.foldl_cons, List.foldl_nil, Nat.mul_zero, Nat.zero_add]
    have htail : rest.length % 2 = 0 := by
      rw [List.length_cons, List.length_cons] at heven
      omega
    rw [octets_cons_cons, Guarded.chunks_two, List.map_cons, List.map_cons, hbyte, ih hrest htail]

/-- Bytes that are read are the numbers their pairs of digits spell. -/
theorem map_toNat_of_bytes_eq_ok {bs : List UInt8} (h : bytes offset cs = .ok bs) :
    bs.map UInt8.toNat = (Guarded.chunks 2 cs).map (digitsValue 16) := by
  rw [bytes_eq, blameFirst_eq_ok_iff] at h
  obtain ⟨hdigits, h⟩ := h
  split at h
  · next heven =>
    rw [← Except.ok.inj h]
    exact map_toNat_octets hdigits heven
  · exact absurd h nofun

end Hex

namespace Descriptor

/-- The bytes of a descriptor are its characters, so its fields can be cut
out of them. -/
structure ByteAligned (d : Descriptor) : Prop where
  size_eq : d.text.utf8ByteSize = descriptorLength
  isValid : ∀ i ≤ descriptorLength, (String.Pos.Raw.mk i).IsValid d.text
  slice_eq : ∀ first last, first ≤ last → last ≤ descriptorLength →
    Guarded.slice d.text first last = .done (.ok (String.ofList (d.field first last)))
  byteAt_eq : ∃ b, Guarded.byteAt d.text 3 = .done (.ok b) ∧ Char.ofNat b.toNat = d.callTypeDigit

/-- The numbers of a descriptor are those its digits spell. -/
structure NoBitLost (d : Descriptor) : Prop where
  referenceCount : ∀ n, d.referenceCount = .ok n → n.toNat = digitsValue 16 (d.field 4 6)
  bitmap : ∀ w, d.bitmap = .ok w → w.toNat = digitsValue 16 (d.field 6 22)

variable (d : Descriptor)

theorem isAscii_of_mem : ∀ c ∈ d.text.toList, isAscii c = true := fun c hc =>
  decide_eq_true (d.ascii c hc)

theorem isAscii_of_mem_field {first last : Nat} : ∀ c ∈ d.field first last, isAscii c = true :=
  fun c hc => d.isAscii_of_mem c (List.mem_of_mem_drop (List.mem_of_mem_take hc))

theorem length_field {first last : Nat} (hlast : last ≤ descriptorLength) :
    (d.field first last).length = last - first :=
  Reading.length_span_of_length d.length_eq hlast

/-- **Byte offsets of a descriptor are character offsets.** -/
theorem byteAligned : d.ByteAligned where
  size_eq := by rw [utf8ByteSize_of_ascii d.isAscii_of_mem, d.length_eq]
  isValid i hi := isValid_of_ascii d.isAscii_of_mem (by rwa [d.length_eq])
  slice_eq first last hle hlast :=
    Guarded.slice_of_ascii d.isAscii_of_mem hle (by rwa [d.length_eq])
  byteAt_eq := by
    have hlt : 3 < d.text.toList.length := by rw [d.length_eq]; decide
    exact ⟨_, Guarded.byteAt_of_ascii d.isAscii_of_mem hlt,
      ofNat_toUInt8_of_isAscii (d.isAscii_of_mem _ (List.getElem_mem hlt))⟩

/-- **Two digits have room in a byte, and sixteen in a word.** -/
theorem noBitLost : d.NoBitLost where
  referenceCount n h := by
    rw [referenceCount_eq, blameFirst_eq_ok_iff, Except.ok.injEq] at h
    obtain ⟨hdigits, rfl⟩ := h
    exact UInt8.toNat_ofNat_of_lt' (Reading.declared_lt d.length_eq hdigits)
  bitmap w h := (Hex.toNat_of_word_eq_ok h (d.length_field (by decide)).le).1

end Descriptor

theorem Validation.checksReferenceCount_iff {v : Validation} :
    v.checksReferenceCount = true ↔ v = .full := by
  cases v <;> decide

namespace Guarded

/-! ## Slots -/

/-- **Slot bytes of any text are read**, or a character of it is blamed. -/
theorem slotBytes_eq (padding : Padding) (trailer : String) :
    slotBytes padding trailer = done (CallDescriptor.slotBytes padding trailer.toList) := by
  cases padding with
  | trailing =>
    show (bytes trailerOffset trailer.toList >>= fun bs => _) = _
    rw [bytes_eq]
    exact done_bind_congr fun _ _ => rfl
  | legacy =>
    rw [slotBytes, checkDigits_eq]
    refine done_bind_congr fun _ hcheck => ?_
    change Hex.checkDigits trailerOffset trailer.toList = .ok _ at hcheck
    rw [Hex.checkDigits_eq, blameFirst_eq_ok_iff] at hcheck
    have hascii : ∀ c ∈ trailer.toList, isAscii c = true := fun c hc =>
      isAscii_of_isHexDigit (hcheck.1 c hc)
    have hkept : ∀ c ∈ dropPairs (trailer.toList.map Char.toLower), isAscii c = true := by
      intro c hc
      obtain ⟨d, hd, rfl⟩ := List.mem_map.1 ((dropPairs_sublist _).subset hc)
      refine isAscii_of_isHexDigit ?_
      rw [isHexDigit_toLower]
      exact hcheck.1 d hd
    show (if (String.ofList (dropPairs (trailer.toList.map Char.toLower))).utf8ByteSize % 2 = 0
      then _ else _) = done (if _ then _ else _)
    rw [utf8ByteSize_ofList_of_ascii hkept]
    split
    · exact bytes_eq _ _
    · next hodd =>
      -- an odd number of digits is at least one
      have hparity := length_dropPairs_mod_two (trailer.toList.map Char.toLower)
      rw [List.length_map] at hparity
      rw [utf8ByteSize_of_ascii hascii, sub, ensure_of (by omega), done_ok_bind,
        Nat.add_sub_assoc (by omega)]

/-- **Slots are assigned** from any text, to any params. -/
theorem assignSlots_eq (options : Options) (trailer : String) (params : List Param) :
    assignSlots options trailer params =
      done (CallDescriptor.assignSlots options trailer.toList params).outcome := by
  rw [outcome_assignSlots, assignSlots]
  split
  · rfl
  · rw [slotBytes_eq]
    refine done_bind_congr fun slots _ => ?_
    have hiff : slots.length ≠ params.length ∧ options.validation.checksSlots = true ↔
        options.validation ≠ .permissive ∧ slots.length ≠ params.length := by
      rw [Validation.checksSlots_iff, and_comm]
    simp only [hiff]
    split
    · rfl
    · rfl

/-! ## Fields -/

variable {β : Type}

/-- A field of at most sixteen digits is cut out and read as a word. -/
theorem word_field_bind (d : Descriptor) {first last : Nat} (hle : first ≤ last)
    (hlast : last ≤ descriptorLength) (hlen : last - first ≤ 16) {f : UInt64 → Guarded β}
    {g : UInt64 → Except DecodeError β}
    (h : ∀ w, Hex.word first (d.field first last) = .ok w → f w = done (g w)) :
    (slice d.text first last >>= fun s => word first s >>= f) =
      done (Hex.word first (d.field first last) >>= g) := by
  rw [d.byteAligned.slice_eq first last hle hlast, done_ok_bind,
    word_eq d.isAscii_of_mem_field (by rwa [d.length_field hlast])]
  exact done_bind_congr h

/-- The reference count is narrowed to a byte that it fits. -/
theorem referenceCount_bind (d : Descriptor) {f : UInt8 → Guarded β}
    {g : UInt8 → Except DecodeError β} (h : ∀ n, f n = done (g n)) :
    (slice d.text 4 6 >>= fun s => word 4 s >>= fun w => narrow w.toNat >>= f) =
      done (d.referenceCount >>= g) := by
  rw [Descriptor.referenceCount, bind_assoc]
  refine word_field_bind d (by decide) (by decide) (by decide) fun w hw => ?_
  have hlen : (d.field 4 6).length = 2 := d.length_field (by decide)
  have hlt := (Hex.toNat_of_word_eq_ok hw (by omega)).2
  rw [hlen] at hlt
  rw [narrow_eq hlt, done_ok_bind]
  exact h _

/-! ## Decoding -/

/-- **Every text is decoded**, or refused. -/
theorem decode_eq (options : Options) (text : String) :
    decode options text = done (CallDescriptor.decode options text) := by
  rw [CallDescriptor.decode, decodeTraced, Traced.outcome_bind]
  refine done_bind_congr fun d hd => ?_
  obtain rfl := Descriptor.text_of_ofString hd
  obtain ⟨b, hb, hdigit⟩ := d.byteAligned.byteAt_eq
  simp only [Traced.outcome_bind, Traced.outcome_report, Traced.outcome_pure]
  rw [hb, done_ok_bind]
  refine referenceCount_bind d fun referenceCount => ?_
  refine word_field_bind d (by decide) (by decide) (by decide) fun bitmap _ => ?_
  have hiff : referenceCount.toNat ≠ (Param.ofBitmap bitmap).length ∧
      options.validation.checksReferenceCount = true ↔
      options.validation = .full ∧ referenceCount.toNat ≠ (Param.ofBitmap bitmap).length := by
    rw [Validation.checksReferenceCount_iff, and_comm]
  show _ = done ((checkReferenceCount _ _ _).outcome >>= fun _ => _)
  rw [paramsOf_eq, done_ok_bind, hdigit, outcome_checkReferenceCount]
  simp only [hiff]
  split
  · rfl
  · rw [d.byteAligned.slice_eq _ _ (by decide) (by decide), done_ok_bind, assignSlots_eq,
      String.toList_ofList]
    exact done_bind_congr fun _ _ => rfl

end Guarded

/-- **No step of decoding fails, and none loses a bit.** With every step
guarded, decoding comes to what it comes to without, on every text, and so
do the slots of a trailer, whatever text that is. A descriptor that is
read can be cut at every offset, a word is the number that its digits
spell, and a byte of a trailer that of its pair. -/
theorem guarded_never_stuck :
    (∀ options text, Guarded.decode options text = .done (decode options text)) ∧
      (∀ padding trailer,
        Guarded.slotBytes padding trailer = .done (slotBytes padding trailer.toList)) ∧
      (∀ options trailer params,
        Guarded.assignSlots options trailer params =
          .done (assignSlots options trailer.toList params).outcome) ∧
      (∀ text d, Descriptor.ofString text = .ok d →
        d.text = text ∧ d.ByteAligned ∧ d.NoBitLost) ∧
      (∀ offset digits word, digits.length ≤ 16 → Hex.word offset digits = .ok word →
        word.toNat = digitsValue 16 digits) ∧
      (∀ offset digits bytes, Hex.bytes offset digits = .ok bytes →
        bytes.map UInt8.toNat = (Guarded.chunks 2 digits).map (digitsValue 16)) :=
  ⟨Guarded.decode_eq, Guarded.slotBytes_eq, Guarded.assignSlots_eq,
    fun _ d h => ⟨Descriptor.text_of_ofString h, d.byteAligned, d.noBitLost⟩,
    fun _ _ _ hlen h => (Hex.toNat_of_word_eq_ok h hlen).1,
    fun _ _ _ h => Hex.map_toNat_of_bytes_eq_ok h⟩

/-- The greatest numbers: a word and a byte have no bit to spare. -/
theorem guarded_never_stuck_greatest :
    (∃ d, Descriptor.ofString
        "0x01ffFFFFFFFFFFFFFFFFffffffffffffffffffffffffffffffffffffffffffff" = .ok d ∧
      d.ByteAligned ∧ d.NoBitLost) ∧
    (Hex.word 6 (List.replicate 16 'F') = .ok 0xffffffffffffffff ∧
      (0xffffffffffffffff : UInt64).toNat = digitsValue 16 (List.replicate 16 'F')) ∧
    (Hex.bytes trailerOffset ['f', 'F'] = .ok [0xff] ∧
      [(0xff : UInt8)].map UInt8.toNat = (Guarded.chunks 2 ['f', 'F']).map (digitsValue 16)) := by
  obtain ⟨-, -, -, hdescriptor, hword, hbytes⟩ := guarded_never_stuck
  refine ⟨?_, ⟨by decide, hword 6 _ _ (by decide) (by decide)⟩,
    ⟨by decide, hbytes trailerOffset _ _ (by decide)⟩⟩
  have hread : (Descriptor.ofString
      "0x01ffFFFFFFFFFFFFFFFFffffffffffffffffffffffffffffffffffffffffffff").isOk = true := by
    decide +kernel
  cases hd : Descriptor.ofString
      "0x01ffFFFFFFFFFFFFFFFFffffffffffffffffffffffffffffffffffffffffffff" with
  | error e =>
    rw [hd] at hread
    exact absurd hread nofun
  | ok d => exact ⟨d, rfl, (hdescriptor _ d hd).2⟩

end CallDescriptor
