import CallDescriptor.Proofs.Hex.Writing
import CallDescriptor.Proofs.Report.Marks
/-!
# The report for a reader is unambiguous

The report echoes its descriptor as it is, so a descriptor may hold whole
lines of another report, and nothing can be read off from the front. It
can be from the back: the lines of the params hold no `=`, the positions
no `[`, a decimal and a label no tab, and the bitmap is as wide as ever.
So each part is what stands behind the last word that has its mark
(`text_inj`), and the lines, once they are cut off, read from the left.
-/

namespace CallDescriptor

theorem CallType.label_inj {c d : CallType} : c.label = d.label ↔ c = d := by
  cases c <;> cases d <;> decide

/-- A label is words and blanks. -/
theorem CallType.tab_not_mem_label (c : CallType) : '\t' ∉ c.label.toList := by
  cases c <;> decide

namespace Report

/-! ## The lines of the params -/

theorem not_mem_slotText {c : Char} (hc : c.isDigit = false) (hword : c ∉ "<unassigned>".toList)
    (slot : Option UInt8) : c ∉ slotText slot := by
  cases slot with
  | none => exact hword
  | some s => exact not_mem_decimal hc _

/-- The words for a missing slot are no number. -/
theorem slotText_inj {slot₁ slot₂ : Option UInt8} :
    slotText slot₁ = slotText slot₂ ↔ slot₁ = slot₂ :=
  number_or_word_inj (fun _ => rfl) (by decide +kernel : '<'.isDigit = false) (by decide +kernel)

/-- The rule above the lines has a mark that no line has. -/
theorem not_mem_paramLine (p : Param) : '=' ∉ paramLine p := by
  unfold paramLine
  simp only [List.mem_append, not_or]
  exact ⟨⟨⟨⟨by decide +kernel, not_mem_decimal (by decide +kernel) _⟩, by decide +kernel⟩,
    not_mem_slotText (by decide +kernel) (by decide +kernel) _⟩, by decide +kernel⟩

/-- A line in front of a text is read off with what follows. -/
theorem paramLine_append_inj {p q : Param} {as bs : List Char}
    (h : paramLine p ++ as = paramLine q ++ bs) : p = q ∧ as = bs := by
  unfold paramLine at h
  simp only [List.append_assoc] at h
  obtain ⟨hposition, h⟩ := append_inj_of_mark ']' (by decide +kernel)
    (not_mem_decimal (by decide +kernel) _) (not_mem_decimal (by decide +kernel) _)
    (List.append_cancel_left h)
  obtain ⟨hslot, h⟩ := append_inj_of_mark ']' (by decide +kernel)
    (not_mem_slotText (by decide +kernel) (by decide +kernel) _)
    (not_mem_slotText (by decide +kernel) (by decide +kernel) _) h
  have hp : p.position = q.position := UInt8.toNat_inj.1 (decimal_inj.1 hposition)
  exact ⟨(Param.mk.injEq ..).mpr ⟨hp, slotText_inj.1 hslot⟩, h⟩

/-- **The lines tell the params**, their number included. -/
theorem flatMap_paramLine_inj {ps qs : List Param}
    (h : ps.flatMap paramLine = qs.flatMap paramLine) : ps = qs := by
  refine flatMap_inj_of_append_inj (fun p => ?_) (fun _ _ _ _ => paramLine_append_inj) h
  unfold paramLine
  simp only [List.append_assoc]
  exact List.append_ne_nil_of_left_ne_nil (by decide +kernel) _

/-! ## The report, from its end -/

/-- **Descriptor and configuration can be read off the report.** -/
theorem text_inj {raw₁ raw₂ : String} {c₁ c₂ : CallConfig} (h : text raw₁ c₁ = text raw₂ c₂) :
    raw₁ = raw₂ ∧ c₁ = c₂ := by
  have hrule : "]\n========= reference config ===========\n".toList =
      "]\n========= reference config ===========".toList ++ ['\n'] := by decide +kernel
  have hlines (ps : List Param) : '=' ∉ ['\n'] ++ ps.flatMap paramLine := by
    rw [List.mem_append, List.mem_flatMap]
    rintro (hmem | ⟨p, -, hmem⟩)
    · exact absurd hmem (by decide +kernel)
    · exact not_mem_paramLine p hmem
  unfold text at h
  rw [hrule, ← List.append_assoc, ← List.append_assoc, List.append_assoc _ ['\n'],
    List.append_assoc _ ['\n']] at h
  obtain ⟨h, hparams⟩ := append_inj_of_mark_right '=' (by decide +kernel)
    (hlines _) (hlines _) h
  obtain ⟨h, -⟩ := append_inj_of_mark_right '[' (by decide +kernel)
    (not_mem_positionList (by decide +kernel) (by decide +kernel) _)
    (not_mem_positionList (by decide +kernel) (by decide +kernel) _) h
  have hwidth : (Hex.ofWord c₁.bitmap).length = (Hex.ofWord c₂.bitmap).length := by
    rw [Hex.length_ofWord, Hex.length_ofWord]
  obtain ⟨h, hbitmap⟩ := List.append_inj' h hwidth
  obtain ⟨h, hcount⟩ := append_inj_of_mark_right '\t' (by decide +kernel)
    (not_mem_decimal (by decide +kernel) _) (not_mem_decimal (by decide +kernel) _)
    (List.append_cancel_right h)
  obtain ⟨h, hlabel⟩ := append_inj_of_mark_right '\t' (by decide +kernel)
    (CallType.tab_not_mem_label _) (CallType.tab_not_mem_label _) h
  have hraw : raw₁ = raw₂ := String.toList_inj.1 (List.append_cancel_left h)
  have hcallType := CallType.label_inj.1 (String.toList_inj.1 hlabel)
  have hreferenceCount := UInt8.toNat_inj.1 (decimal_inj.1 hcount)
  have hlist := flatMap_paramLine_inj (List.append_cancel_left hparams)
  exact ⟨hraw, (CallConfig.mk.injEq ..).mpr
    ⟨hcallType, hreferenceCount, Hex.ofWord_inj.1 hbitmap, hlist⟩⟩

end Report

/-- **The report for a reader is unambiguous.** Two reports are the same
text just if they are on the same descriptor and the same configuration,
whatever the descriptor holds, and whether or not the configuration is
one that decoding returns. -/
theorem report_text_inj {raw₁ raw₂ : String} {c₁ c₂ : CallConfig} :
    report raw₁ c₁ .text = report raw₂ c₂ .text ↔ raw₁ = raw₂ ∧ c₁ = c₂ := by
  constructor
  · intro h
    exact Report.text_inj (String.ofList_injective h)
  · rintro ⟨rfl, rfl⟩
    rfl

end CallDescriptor
