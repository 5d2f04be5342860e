import CallDescriptor.Proofs.FirstFailing
import CallDescriptor.Proofs.Guarded
/-!
# Text of one byte a character

In a text of ASCII alone every character is stored in a byte of its own
(`toByteArray_of_ascii`), so byte offsets are character offsets and each of
them up to the end can be cut at. `slice_of_ascii` and `byteAt_of_ascii`
read the two steps on bytes as steps on characters; the length of the
text, counted either way, is all that they ask for.
-/

namespace CallDescriptor

namespace Text

variable {c : Char} {cs : List Char} {s : String}

theorem utf8Size_of_isAscii (h : isAscii c = true) : c.utf8Size = 1 := by
  have hlt : c.toNat < 128 := of_decide_eq_true h
  refine Char.utf8Size_eq_one_iff.2 ?_
  rw [UInt32.le_iff_toNat_le]
  exact Nat.le_of_lt_succ hlt

theorem utf8Encode_of_ascii (h : ∀ c ∈ cs, isAscii c = true) :
    cs.utf8Encode = (cs.map fun c => c.val.toUInt8).toByteArray := by
  induction cs with
  | nil => rw [List.utf8Encode_nil, List.map_nil, List.toByteArray_nil]
  | cons c cs ih =>
    rw [List.forall_mem_cons] at h
    rw [List.utf8Encode_cons, ih h.2, List.utf8Encode_singleton,
      String.utf8EncodeChar_eq_singleton (utf8Size_of_isAscii h.1), ← List.toByteArray_append]
    rfl

/-- **The bytes of the text are its characters**, one by one. -/
theorem toByteArray_of_ascii (h : ∀ c ∈ s.toList, isAscii c = true) :
    s.toByteArray = (s.toList.map fun c => c.val.toUInt8).toByteArray := by
  rw [← String.utf8Encode_toList, utf8Encode_of_ascii h]

theorem utf8ByteSize_of_ascii (h : ∀ c ∈ s.toList, isAscii c = true) :
    s.utf8ByteSize = s.toList.length := by
  rw [← String.size_toByteArray, toByteArray_of_ascii h, List.size_toByteArray, List.length_map]

theorem utf8ByteSize_ofList_of_ascii (h : ∀ c ∈ cs, isAscii c = true) :
    (String.ofList cs).utf8ByteSize = cs.length := by
  rw [utf8ByteSize_of_ascii, String.toList_ofList]
  rw [String.toList_ofList]
  exact h

/-- Every offset up to the end lies between two characters. -/
theorem isValid_of_ascii (h : ∀ c ∈ s.toList, isAscii c = true) {i : Nat}
    (hi : i ≤ s.toList.length) : (String.Pos.Raw.mk i).IsValid s := by
  refine String.Pos.Raw.isValid_iff_exists_append.2
    ⟨String.ofList (s.toList.take i), String.ofList (s.toList.drop i), ?_, ?_⟩
  · rw [← String.ofList_append, List.take_append_drop, String.ofList_toList]
  · rw [String.rawEndPos, utf8ByteSize_ofList_of_ascii fun c hc => h c (List.mem_of_mem_take hc),
      List.length_take, Nat.min_eq_left hi]

/-- A byte of the text is the character it stands for. -/
theorem ofNat_toUInt8_of_isAscii (h : isAscii c = true) :
    Char.ofNat c.val.toUInt8.toNat = c := by
  have hlt : c.toNat < 128 := of_decide_eq_true h
  have hbyte : c.val.toUInt8.toNat = c.toNat := by
    rw [UInt32.toNat_toUInt8]
    exact Nat.mod_eq_of_lt (by rw [Char.toNat_val]; omega)
  rw [hbyte, Char.ofNat_toNat]

end Text

namespace Guarded

open Text

variable {s : String}

/-- What stands between two offsets, as bytes. -/
theorem slice_of_isValid {first last : Nat} (hle : first ≤ last)
    (hfirst : (String.Pos.Raw.mk first).IsValid s) (hlast : (String.Pos.Raw.mk last).IsValid s)
    {middle : String} (hmiddle : s.toByteArray.extract first last = middle.toByteArray) :
    slice s first last = done (.ok middle) := by
  rw [slice, dif_pos ⟨hle, hfirst, hlast⟩]
  show done (.ok _) = _
  congr 2
  rw [← String.toByteArray_inj, String.toByteArray_extract, String.offset_pos, String.offset_pos]
  exact hmiddle

/-- **A slice between byte offsets is a stretch of the characters.** -/
theorem slice_of_ascii (h : ∀ c ∈ s.toList, isAscii c = true) {first last : Nat}
    (hle : first ≤ last) (hlast : last ≤ s.toList.length) :
    slice s first last = done (.ok (String.ofList (span s.toList first last))) := by
  refine slice_of_isValid hle (isValid_of_ascii h (Nat.le_trans hle hlast))
    (isValid_of_ascii h hlast) ?_
  have hmem (c : Char) (hc : c ∈ span s.toList first last) : isAscii c = true :=
    h c (List.mem_of_mem_drop (List.mem_of_mem_take hc))
  have hmiddle : (String.ofList (span s.toList first last)).toByteArray =
      ((span s.toList first last).map fun c => c.val.toUInt8).toByteArray := by
    rw [toByteArray_of_ascii (by rwa [String.toList_ofList]), String.toList_ofList]
  rw [toByteArray_of_ascii h, hmiddle, span, List.map_take, List.map_drop]
  refine ByteArray.ext ?_
  rw [ByteArray.data_extract, List.data_toByteArray, List.data_toByteArray,
    List.extract_toArray, List.extract_eq_take_drop]

-- outside ASCII an offset may lie inside a character
example : slice "é" 0 1 = stuck := by rfl

/-- **A byte at an index is the character there.** -/
theorem byteAt_of_ascii (h : ∀ c ∈ s.toList, isAscii c = true) {i : Nat}
    (hi : i < s.toList.length) :
    byteAt s i = done (.ok s.toList[i].val.toUInt8) := by
  have hbytes := toByteArray_of_ascii h
  have hsize : i < s.toByteArray.size := by
    rw [String.size_toByteArray, utf8ByteSize_of_ascii h]
    exact hi
  rw [byteAt, dif_pos hsize]
  show done (.ok _) = _
  congr 2
  simp [hbytes]

end Guarded

end CallDescriptor
