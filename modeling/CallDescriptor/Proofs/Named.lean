import CallDescriptor.Proofs.Hex.Reading
import CallDescriptor.Report
import CallDescriptor.Text.Blank
/-!
# Names and the values they stand for

A vocabulary is read through the list of its values, and `Lawful` is what
makes that list a table of names: each value is in it, no two have one name,
and names are made of lower case letters. Then a name stands for a value just
if it is the name of that value (`ofName?_eq_some_iff`), or is once its letters
are in lower case (`ofNameAnyCase?_eq_some_iff`). Lower case is that of ASCII:
a text with a character that is no ASCII letter is no name, also if another way
to fold case or to cut off white space would make it one.
-/

namespace CallDescriptor

namespace Named

/-- A vocabulary without two values under one name. -/
class Lawful (α : Type) [Named α] : Prop where
  /-- Every value is listed. -/
  mem_values (v : α) : v ∈ values (α := α)
  name_injective : Function.Injective (name (α := α))
  name_ne_nil (v : α) : (name v).toList ≠ []
  /-- Names are made of lower case letters of ASCII. -/
  isLower_of_mem_name (v : α) : ∀ c ∈ (name v).toList, c.isLower = true

instance : Lawful Padding where
  mem_values v := by cases v <;> decide
  name_injective v w h := by cases v <;> cases w <;> first | rfl | exact absurd h (by decide)
  name_ne_nil v := by cases v <;> decide
  isLower_of_mem_name v := List.all_eq_true.1 (by cases v <;> decide)

instance : Lawful Validation where
  mem_values v := by cases v <;> decide
  name_injective v w h := by cases v <;> cases w <;> first | rfl | exact absurd h (by decide)
  name_ne_nil v := by cases v <;> decide
  isLower_of_mem_name v := List.all_eq_true.1 (by cases v <;> decide)

instance : Lawful ReportFormat where
  mem_values v := by cases v <;> decide
  name_injective v w h := by cases v <;> cases w <;> first | rfl | exact absurd h (by decide)
  name_ne_nil v := by cases v <;> decide
  isLower_of_mem_name v := List.all_eq_true.1 (by cases v <;> decide)

/-! ## Letters -/

section

variable {c : Char}

theorem isLower_iff_toNat : c.isLower = true ↔ 97 ≤ c.toNat ∧ c.toNat ≤ 122 := by
  have hbounds : c.isLower = (decide (c.val ≥ 'a'.val) && decide (c.val ≤ 'z'.val)) := rfl
  rw [hbounds, Bool.and_eq_true, decide_eq_true_iff, decide_eq_true_iff]
  exact Iff.rfl

theorem toLower_eq_self (h : c.isLower = true) : c.toLower = c := by
  have hbounds := isLower_iff_toNat.1 h
  rw [← Char.toNat_inj, Text.toNat_toLower, if_neg (by omega)]

/-- Whether `c` is a letter of ASCII, in either case. -/
def IsLetter (c : Char) : Prop := (65 ≤ c.toNat ∧ c.toNat ≤ 90) ∨ (97 ≤ c.toNat ∧ c.toNat ≤ 122)

/-- Only a letter is in lower case once it has been lowered. -/
theorem isLetter_of_isLower_toLower (h : c.toLower.isLower = true) : IsLetter c := by
  have hbounds := isLower_iff_toNat.1 h
  rw [Text.toNat_toLower] at hbounds
  unfold IsLetter
  split at hbounds
  · omega
  · omega

theorem IsLetter.isAscii (h : IsLetter c) : Text.isAscii c = true := by
  unfold IsLetter at h
  rw [Text.isAscii, decide_eq_true_eq]
  omega

/-- White space is no letter. -/
theorem IsLetter.not_isBlank (h : IsLetter c) : Text.isBlank c = false := by
  unfold IsLetter at h
  simp only [Text.isBlank, Bool.or_eq_false_iff, Bool.and_eq_false_iff, decide_eq_false_iff_not,
    beq_eq_false_iff_ne]
  omega

end

/-! ## Reading names -/

variable {α : Type} [Named α] {v w : α} {s t : String}

/-- The case of letters changes nothing. -/
theorem ofNameAnyCase?_congr (h : lowerAscii s = lowerAscii t) :
    ofNameAnyCase? (α := α) s = ofNameAnyCase? t := by
  unfold ofNameAnyCase?
  rw [h]

variable [Lawful α]

/-- What holds of one value at most finds it in the list. -/
theorem find?_values_eq_some_iff {p : α → Bool}
    (hunique : ∀ v w, p v = true → p w = true → v = w) :
    (values (α := α)).find? p = some v ↔ p v = true := by
  constructor
  · intro h
    exact List.find?_some h
  · intro h
    cases hfound : (values (α := α)).find? p with
    | none => exact absurd h (List.find?_eq_none.1 hfound v (Lawful.mem_values v))
    | some w => rw [hunique w v (List.find?_some hfound) h]

/-- **A name stands for the value it is the name of.** -/
theorem ofName?_eq_some_iff : ofName? s = some v ↔ s = name v := by
  unfold ofName?
  rw [find?_values_eq_some_iff, beq_iff_eq, eq_comm]
  intro v w hv hw
  rw [beq_iff_eq] at hv hw
  exact Lawful.name_injective (hv.trans hw.symm)

@[simp] theorem ofName?_name (v : α) : ofName? (name v) = some v := ofName?_eq_some_iff.2 rfl

/-- Lower case leaves a name as it is. -/
theorem lowerAscii_name (v : α) : lowerAscii (name v) = (name v).toList := by
  refine (List.map_congr_left fun c hc => ?_).trans (List.map_id _)
  exact toLower_eq_self (Lawful.isLower_of_mem_name v c hc)

/-- **In any case it stands for the value whose name it is in lower case.** -/
theorem ofNameAnyCase?_eq_some_iff :
    ofNameAnyCase? s = some v ↔ lowerAscii s = (name v).toList := by
  unfold ofNameAnyCase?
  rw [find?_values_eq_some_iff, beq_iff_eq, lowerAscii_name, eq_comm]
  intro v w hv hw
  rw [beq_iff_eq, lowerAscii_name] at hv hw
  exact Lawful.name_injective (String.toList_inj.1 (hv.trans hw.symm))

/-- **A name as it is written is one in any case that is in lower case.** -/
theorem ofName?_eq_some_iff_anyCase :
    ofName? s = some v ↔ ofNameAnyCase? s = some v ∧ lowerAscii s = s.toList := by
  rw [ofName?_eq_some_iff, ofNameAnyCase?_eq_some_iff]
  constructor
  · rintro rfl
    exact ⟨lowerAscii_name v, lowerAscii_name v⟩
  · rintro ⟨hname, hlower⟩
    exact String.toList_inj.1 (hlower.symm.trans hname)

theorem ofNameAnyCase?_of_ofName? (h : ofName? s = some v) : ofNameAnyCase? s = some v :=
  (ofName?_eq_some_iff_anyCase.1 h).1

/-! ## Texts that are no names -/

/-- **A name is made of letters**, in any case. -/
theorem isLetter_of_mem (h : ofNameAnyCase? s = some v) {c : Char} (hc : c ∈ s.toList) :
    IsLetter c := by
  have hname := ofNameAnyCase?_eq_some_iff.1 h
  have hmem : c.toLower ∈ (name v).toList := hname ▸ List.mem_map_of_mem hc
  exact isLetter_of_isLower_toLower (Lawful.isLower_of_mem_name v _ hmem)

theorem toList_ne_nil (h : ofNameAnyCase? s = some v) : s.toList ≠ [] := by
  intro hnil
  have hname := ofNameAnyCase?_eq_some_iff.1 h
  unfold lowerAscii at hname
  rw [hnil] at hname
  exact Lawful.name_ne_nil v hname.symm

section

variable {fold : Char → List Char}

/-- A text in ASCII has one folding. -/
theorem flatMap_fold_eq (hfold : ∀ c, Text.isAscii c = true → fold c = [c.toLower])
    (h : ∀ c ∈ s.toList, Text.isAscii c = true) : s.toList.flatMap fold = lowerAscii s := by
  unfold lowerAscii
  rw [List.map_eq_flatMap]
  exact List.flatMap_congr fun c hc => hfold c (h c hc)

/-- **What another folding takes for the name of a value stands for no other
value.** -/
theorem eq_of_flatMap_fold (hfold : ∀ c, Text.isAscii c = true → fold c = [c.toLower])
    (hsame : s.toList.flatMap fold = (name v).toList) (h : ofNameAnyCase? s = some w) : w = v := by
  have hascii : ∀ c ∈ s.toList, Text.isAscii c = true := fun c hc => (isLetter_of_mem h hc).isAscii
  have hname := ofNameAnyCase?_eq_some_iff.1 h
  rw [flatMap_fold_eq hfold hascii, hname] at hsame
  exact Lawful.name_injective (String.toList_inj.1 hsame)

end

/-- **There is nothing to cut off a name.** -/
theorem trim_eq_self (h : ofNameAnyCase? s = some v) : Text.trim s = s := by
  have hself : ∀ cs : List Char, (∀ c ∈ cs, Text.isBlank c = false) →
      cs.dropWhile Text.isBlank = cs := by
    intro cs hcs
    cases cs with
    | nil => rfl
    | cons c cs => exact List.dropWhile_cons_of_neg (by rw [hcs c List.mem_cons_self]; decide)
  have hblank : ∀ c ∈ s.toList, Text.isBlank c = false := fun c hc =>
    (isLetter_of_mem h hc).not_isBlank
  rw [Text.trim, hself _ hblank, hself, List.reverse_reverse, String.ofList_toList]
  intro c hc
  exact hblank c (List.mem_reverse.1 hc)

end Named

end CallDescriptor
