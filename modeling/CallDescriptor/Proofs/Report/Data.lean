import CallDescriptor.Proofs.CallConfig.Forms
import CallDescriptor.Proofs.Report.Marks
/-!
# The data reports carry the whole configuration

The report in JSON is read back as the configuration that it is on. That in
YAML is not read here; that it could be is said by its being the report on
one configuration only (`yaml_inj`): every value in it ends with its line,
and the params, which may be none, end the report.
-/

namespace CallDescriptor

theorem CallType.name_inj {c d : CallType} : Named.name c = Named.name d ↔ c = d := by
  cases c <;> cases d <;> decide

/-- A name stands on one line. -/
theorem CallType.newline_not_mem_name (c : CallType) : '\n' ∉ (Named.name c).toList := by
  cases c <;> decide

namespace Report

/-! ## The params -/

theorem yamlSlot_inj {slot₁ slot₂ : Option UInt8} :
    yamlSlot slot₁ = yamlSlot slot₂ ↔ slot₁ = slot₂ :=
  number_or_word_inj (fun _ => rfl) (by decide +kernel : 'n'.isDigit = false) (by decide +kernel)

theorem newline_not_mem_decimal (n : Nat) : '\n' ∉ decimal n :=
  not_mem_decimal (by decide +kernel) n

theorem newline_not_mem_yamlSlot (slot : Option UInt8) : '\n' ∉ yamlSlot slot := by
  cases slot with
  | none => exact (by decide +kernel : '\n' ∉ "null".toList)
  | some s => exact newline_not_mem_decimal _

/-- An item in front of a text is read off with what follows. -/
theorem yamlParam_append_inj {p q : Param} {as bs : List Char}
    (h : yamlParam p ++ as = yamlParam q ++ bs) : p = q ∧ as = bs := by
  unfold yamlParam at h
  simp only [List.append_assoc] at h
  obtain ⟨hposition, h⟩ := append_inj_of_mark '\n' (by decide +kernel)
    (newline_not_mem_decimal _) (newline_not_mem_decimal _) (List.append_cancel_left h)
  obtain ⟨hslot, h⟩ := append_inj_of_mark '\n' (by decide +kernel)
    (newline_not_mem_yamlSlot _) (newline_not_mem_yamlSlot _) h
  have hp : p.position = q.position := UInt8.toNat_inj.1 (decimal_inj.1 hposition)
  exact ⟨(Param.mk.injEq ..).mpr ⟨hp, yamlSlot_inj.1 hslot⟩, h⟩

/-- The params are told in both styles, and the styles from each other. -/
theorem yamlParams_inj {ps qs : List Param} (h : yamlParams ps = yamlParams qs) : ps = qs := by
  have hitem (p : Param) : yamlParam p ≠ [] := by
    unfold yamlParam
    exact List.append_ne_nil_of_right_ne_nil _ (List.cons_ne_nil _ _)
  have hflow (p : Param) (ps : List Param) : yamlParams (p :: ps) ≠ yamlParams [] := fun h =>
    absurd (List.head_eq_of_cons_eq h) (by decide)
  cases ps with
  | nil =>
    cases qs with
    | nil => rfl
    | cons q qs => exact absurd h.symm (hflow q qs)
  | cons p ps =>
    cases qs with
    | nil => exact absurd h (hflow p ps)
    | cons q qs =>
      exact flatMap_inj_of_append_inj hitem (fun _ _ _ _ => yamlParam_append_inj)
        (List.tail_eq_of_cons_eq h)

/-! ## The reports -/

/-- **The configuration can be read off its YAML**, line by line. -/
theorem yaml_inj {c₁ c₂ : CallConfig} (h : yaml c₁ = yaml c₂) : c₁ = c₂ := by
  unfold yaml at h
  simp only [List.append_assoc] at h
  obtain ⟨hname, h⟩ := append_inj_of_mark '\n' (by decide +kernel)
    (CallType.newline_not_mem_name _) (CallType.newline_not_mem_name _)
    (List.append_cancel_left h)
  obtain ⟨hcount, h⟩ := append_inj_of_mark '\n' (by decide +kernel)
    (newline_not_mem_decimal _) (newline_not_mem_decimal _) h
  obtain ⟨hbitmap, h⟩ := append_inj_of_mark '\n' (by decide +kernel)
    (newline_not_mem_decimal _) (newline_not_mem_decimal _) h
  have hcallType := CallType.name_inj.1 (String.toList_inj.1 hname)
  have hreferenceCount := UInt8.toNat_inj.1 (decimal_inj.1 hcount)
  have hbits := UInt64.toNat_inj.1 (decimal_inj.1 hbitmap)
  exact (CallConfig.mk.injEq ..).mpr ⟨hcallType, hreferenceCount, hbits, yamlParams_inj h⟩

end Report

/-- **The data reports carry the whole configuration**, whether or not it is
one that decoding returns: that in JSON is read back as exactly it, and that
in YAML is the report on it alone. -/
theorem data_reports_carry_config :
    (∀ (descriptor : String) (c : CallConfig),
      (Json.ofString? (report descriptor c .json)).map CallConfig.ofJson = some (.ok c)) ∧
      ∀ (descriptor₁ descriptor₂ : String) (c₁ c₂ : CallConfig),
        report descriptor₁ c₁ .yaml = report descriptor₂ c₂ .yaml ↔ c₁ = c₂ := by
  refine ⟨fun descriptor c => ?_, fun _ _ c₁ c₂ => ⟨fun h => ?_, ?_⟩⟩
  · have hread : Json.ofString? (report descriptor c .json) = some c.toJson.sorted :=
      Json.ofString?_pretty c.plain_toJson
    rw [hread, Option.map_some, c.ofJson_sorted_toJson]
  · exact Report.yaml_inj (String.ofList_injective h)
  · rintro rfl
    rfl

end CallDescriptor
