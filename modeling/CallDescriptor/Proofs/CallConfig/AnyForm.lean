import CallDescriptor.Proofs.CallConfig.Forms
import Mathlib.Data.List.Forall2
/-!
# Every form of a configuration means the same

A configuration has many JSON forms: an object or the array of its fields,
with each param in either form by itself, with members in any order and others
beside them. `CallConfig.Form` says which, and a configuration is read from
each of them. No number outside the range of its field is read from anything
(`CallConfig.OutOfRange`), whatever else is right or wrong with it.
-/

namespace CallDescriptor

open Json Record

/-! ## Forms -/

/-- A value of a vocabulary under this name. -/
inductive Json.NameForm (name : String) : Json → Prop
  | bare : NameForm name (string name)
  /-- The name is the key of an object, and there is nothing behind it. -/
  | keyed : NameForm name (object [(name, null)])

namespace Param

/-- The names of the fields. -/
def fieldNames : List String := ["position", "stack_slot"]

/-- A slot, or null for none. -/
def slotToJson : Option UInt8 → Json
  | some s => integer s.toNat
  | none => null

/-- The JSON values that say what `p` is. -/
inductive Form (p : Param) : Json → Prop
  /-- The fields in order. -/
  | items : Form p (array [integer p.position.toNat, slotToJson p.slot])
  /-- The fields by name, in any order and with anything beside them. -/
  | members {entries : List (String × Json)}
      (hfields : (entries.filter fun e => e.1 ∈ fieldNames).Perm
        [("position", integer p.position.toNat), ("stack_slot", slotToJson p.slot)]) :
      Form p (object entries)
  /-- Where the slot is null, it can be left out. -/
  | unassigned {entries : List (String × Json)} (hslot : p.slot = none)
      (hfields : (entries.filter fun e => e.1 ∈ fieldNames).Perm
        [("position", integer p.position.toNat)]) :
      Form p (object entries)

end Param

namespace CallConfig

/-- The names of the fields. -/
def fieldNames : List String := ["call_type", "reference_count", "bitmap", "params"]

/-- The JSON values that say what `c` is. Each param is in a form of its own. -/
inductive Form (c : CallConfig) : Json → Prop
  /-- The fields in order. -/
  | items {callType : Json} {params : List Json}
      (hcallType : NameForm (Named.name c.callType) callType)
      (hparams : List.Forall₂ Param.Form c.params params) :
      Form c (array [callType, integer c.referenceCount.toNat, integer c.bitmap.toNat,
        array params])
  /-- The fields by name, in any order and with anything beside them. -/
  | members {entries : List (String × Json)} {callType : Json} {params : List Json}
      (hcallType : NameForm (Named.name c.callType) callType)
      (hparams : List.Forall₂ Param.Form c.params params)
      (hfields : (entries.filter fun e => e.1 ∈ fieldNames).Perm
        [("call_type", callType), ("reference_count", integer c.referenceCount.toNat),
          ("bitmap", integer c.bitmap.toNat), ("params", array params)]) :
      Form c (object entries)

end CallConfig

/-! ## What is written -/

theorem Param.form_toJson (p : Param) : p.Form p.toJson := by
  refine .members ?_
  cases p.slot with
  | none => exact .refl _
  | some s => exact .refl _

/-- **What is written is one of the forms.** -/
theorem CallConfig.form_toJson (c : CallConfig) : c.Form c.toJson := by
  refine .members .bare ?_ (.refl _)
  rw [List.forall₂_map_right_iff]
  exact List.forall₂_same.2 fun p _ => p.form_toJson

/-! ## What is read -/

namespace Json

variable {α : Type}

theorem readNamed_of_form {callType : CallType} {v : Json}
    (h : NameForm (Named.name callType) v) : readNamed v = .ok callType := by
  cases h with
  | bare => exact readNamed_name callType
  | keyed => cases callType <;> rfl

/-- A list is read if each of its items is, whatever form it has. -/
theorem readList_of_forall₂ {read : Json → Except ReadError α} {R : α → Json → Prop}
    {as : List α} {items : List Json} (hread : ∀ a v, R a v → read v = .ok a)
    (h : List.Forall₂ R as items) : readList read (array items) = .ok as := by
  rw [readList]
  induction h with
  | nil => rfl
  | cons hitem _ ih =>
    rw [List.mapM_cons, hread _ _ hitem, ih]
    rfl

end Json

namespace Param

theorem readNullable_slotToJson (slot : Option UInt8) :
    readNullable readByte (slotToJson slot) = .ok slot := by
  have hwritten := readNullable_slot slot
  cases slot with
  | none => exact hwritten
  | some s => exact hwritten

/-- **A param is read from each of its forms.** -/
theorem ofJson_of_form {p : Param} {v : Json} (h : p.Form v) : ofJson v = .ok p := by
  cases h with
  | items =>
    show (readByte (integer p.position.toNat) >>= fun position =>
      readNullable readByte (slotToJson p.slot) >>= fun slot => .ok { position, slot }) =
        Except.ok p
    rw [readByte_integer, readNullable_slotToJson]
    rfl
  | members hfields =>
    have hposition := gives_of_filter_perm hfields nodup_names (.head _) (.head _)
      (readByte_integer p.position)
    have hslot := gives_of_filter_perm hfields nodup_names (.tail _ (.head _)) (.tail _ (.head _))
      (readNullable_slotToJson p.slot)
    exact ofJson_of_fills hposition (hslot.fills none)
  | @unassigned entries hnone hfields =>
    have hposition := gives_of_filter_perm hfields (List.nodup_singleton _) (.head _) (.head _)
      (readByte_integer p.position)
    have hslot : ∀ w, ("stack_slot", w) ∉ entries := by
      intro w hw
      have hknown : "stack_slot" ∈ fieldNames := .tail _ (.head _)
      have hfield := hfields.mem_iff.1 (List.mem_filter.2 ⟨hw, decide_eq_true hknown⟩)
      have hname := (Prod.mk.inj (List.mem_singleton.1 hfield)).1
      exact absurd hname (by decide)
    exact ofJson_of_fills hposition (hnone ▸ fills_of_not_mem hslot)

end Param

namespace CallConfig

/-- **A configuration is read from each of its forms.** -/
theorem ofJson_of_form {c : CallConfig} {v : Json} (h : c.Form v) : ofJson v = .ok c := by
  have hread {params : List Json} (hparams : List.Forall₂ Param.Form c.params params) :
      readList Param.ofJson (array params) = .ok c.params :=
    readList_of_forall₂ (fun _ _ => Param.ofJson_of_form) hparams
  cases h with
  | @items callType params hcallType hparams =>
    show (readNamed callType >>= fun callType =>
      readByte (integer c.referenceCount.toNat) >>= fun referenceCount =>
      readWord (integer c.bitmap.toNat) >>= fun bitmap =>
      readList Param.ofJson (array params) >>= fun params =>
      .ok { callType, referenceCount, bitmap, params }) = Except.ok c
    rw [readNamed_of_form hcallType, readByte_integer, readWord_integer, hread hparams]
    rfl
  | members hcallType hparams hfields =>
    exact ofJson_object
      (gives_of_filter_perm hfields nodup_names (.head _) (.head _) (readNamed_of_form hcallType))
      (gives_of_filter_perm hfields nodup_names (.tail _ (.head _)) (.tail _ (.head _))
        (readByte_integer _))
      (gives_of_filter_perm hfields nodup_names (.tail _ (.tail _ (.head _)))
        (.tail _ (.tail _ (.head _))) (readWord_integer _))
      (gives_of_filter_perm hfields nodup_names (.tail _ (.tail _ (.tail _ (.head _))))
        (.tail _ (.tail _ (.tail _ (.head _)))) (hread hparams))

end CallConfig

/-! ## What is refused -/

/-- `w` stands in `v` for a field: under its name, or in its place among the
fields in order. -/
inductive Json.Field (name : String) (index : Nat) : Json → Json → Prop
  | member {entries : List (String × Json)} {w : Json} (hmem : (name, w) ∈ entries) :
      Field name index (object entries) w
  | item {items : List Json} {w : Json} (hitem : items[index]? = some w) :
      Field name index (array items) w

namespace Json.Field

variable {α : Type} {name : String} {index : Nat} {w : Json} {read : Json → Except ReadError α}

/-- Of an object that passes its checks each field is read. -/
theorem read_of_object {entries : List (String × Json)} {checks : Checks Json}
    (hfield : Field name index (object entries) w)
    (hentries : checkEntries checks entries = .ok ()) (hnames : (checks.map Prod.fst).Nodup)
    (hcheck : (name, check read) ∈ checks) : ∃ a, read w = .ok a := by
  cases hfield with
  | member hmem =>
    exact check_eq_ok_iff.1 ((checkEntries_eq_ok_iff hnames).1 hentries _ hcheck w hmem)

/-- And so it is of an array. -/
theorem read_of_array {wanted : String} {items : List Json} {a : α}
    (hfield : Field name index (array items) w)
    (hread : requiredAt wanted items index read = .ok a) : ∃ a, read w = .ok a := by
  cases hfield with
  | item hitem =>
    rw [requiredAt, hitem] at hread
    exact ⟨a, hread⟩

end Json.Field

/-- A natural number below `size`. -/
def Json.IsNatural (size : Nat) (v : Json) : Prop := ∃ n : Nat, n < size ∧ v = integer n

/-- A param with a number that is none of a byte. -/
inductive Param.OutOfRange : Json → Prop
  | position {v w : Json} (hfield : Field "position" 0 v w)
      (hrange : ¬ w.IsNatural UInt8.size) : OutOfRange v
  | slot {v w : Json} (hfield : Field "stack_slot" 1 v w) (hnull : w ≠ null)
      (hrange : ¬ w.IsNatural UInt8.size) : OutOfRange v

/-- A configuration with a number that is none of a byte or of a word. -/
inductive CallConfig.OutOfRange : Json → Prop
  | referenceCount {v w : Json} (hfield : Field "reference_count" 1 v w)
      (hrange : ¬ w.IsNatural UInt8.size) : OutOfRange v
  | bitmap {v w : Json} (hfield : Field "bitmap" 2 v w)
      (hrange : ¬ w.IsNatural UInt64.size) : OutOfRange v
  | param {v item : Json} {items : List Json} (hfield : Field "params" 3 v (array items))
      (hitem : item ∈ items) (hparam : Param.OutOfRange item) : OutOfRange v

namespace Json

variable {α : Type} {v w : Json}

theorem isNatural_of_readNat {max n : Nat} {wanted : String}
    (h : readNat max wanted v = .ok n) : v.IsNatural (max + 1) := by
  cases v with
  | integer i =>
    rw [readNat] at h
    split at h
    · next hrange => exact ⟨i.toNat, by omega, by rw [Int.toNat_of_nonneg hrange.1]⟩
    · cases h
  | null | boolean | real | string | array | object => cases h

theorem isNatural_of_readByte {b : UInt8} (h : readByte v = .ok b) : v.IsNatural UInt8.size := by
  obtain ⟨n, hn, -⟩ := exists_of_bind_eq_ok h
  exact isNatural_of_readNat hn

theorem isNatural_of_readWord {b : UInt64} (h : readWord v = .ok b) :
    v.IsNatural UInt64.size := by
  obtain ⟨n, hn, -⟩ := exists_of_bind_eq_ok h
  exact isNatural_of_readNat hn

theorem null_or_isNatural_of_readNullable {b : Option UInt8}
    (h : readNullable readByte v = .ok b) : v = null ∨ v.IsNatural UInt8.size := by
  by_cases hnull : v = null
  · exact .inl hnull
  · rw [readNullable] at h
    · cases hread : readByte v with
      | error e =>
        rw [hread] at h
        cases h
      | ok b => exact .inr (isNatural_of_readByte hread)
    · exact hnull

/-- Of a list that is read each item is. -/
theorem exists_of_mem_of_readList {read : Json → Except ReadError α} {items : List Json}
    {item : Json} {as : List α} (h : readList read (array items) = .ok as) (hitem : item ∈ items) :
    ∃ a, read item = .ok a := by
  rw [readList] at h
  induction items generalizing as with
  | nil => cases hitem
  | cons first items ih =>
    rw [List.mapM_cons] at h
    obtain ⟨a, ha, h⟩ := exists_of_bind_eq_ok h
    obtain ⟨rest, hrest, -⟩ := exists_of_bind_eq_ok h
    cases hitem with
    | head => exact ⟨a, ha⟩
    | tail _ hitem => exact ih hrest hitem

end Json

namespace Param

variable {v : Json} {p : Param}

/-- How the entry of each field is checked. -/
def checks : Checks Json :=
  [("position", check readByte), ("stack_slot", check (readNullable readByte))]

theorem nodup_checks : (checks.map Prod.fst).Nodup := nodup_names

theorem checkEntries_of_ofJson {entries : List (String × Json)}
    (h : ofJson (object entries) = .ok p) : checkEntries checks entries = .ok () := by
  obtain ⟨⟨⟩, hentries, -⟩ := exists_of_bind_eq_ok h
  exact hentries

/-- What stands for a field of a param that is read, is read. -/
theorem fields_of_ofJson (h : ofJson v = .ok p) :
    (∀ w, Field "position" 0 v w → ∃ b, readByte w = .ok b) ∧
      ∀ w, Field "stack_slot" 1 v w → ∃ slot, readNullable readByte w = .ok slot := by
  cases v with
  | object entries =>
    have hentries := checkEntries_of_ofJson h
    exact ⟨fun w hw => hw.read_of_object hentries nodup_checks (.head _),
      fun w hw => hw.read_of_object hentries nodup_checks (.tail _ (.head _))⟩
  | array items =>
    obtain ⟨position, hposition, h⟩ := exists_of_bind_eq_ok h
    obtain ⟨slot, hslot, -⟩ := exists_of_bind_eq_ok h
    exact ⟨fun w hw => hw.read_of_array hposition, fun w hw => hw.read_of_array hslot⟩
  | null | boolean | integer | real | string => cases h

theorem OutOfRange.not_read (h : OutOfRange v) : ofJson v ≠ .ok p := by
  intro hread
  obtain ⟨hposition, hslot⟩ := fields_of_ofJson hread
  cases h with
  | position hfield hrange =>
    obtain ⟨b, hb⟩ := hposition _ hfield
    exact hrange (isNatural_of_readByte hb)
  | slot hfield hnull hrange =>
    obtain ⟨slot, hw⟩ := hslot _ hfield
    rcases null_or_isNatural_of_readNullable hw with hw | hw
    · exact hnull hw
    · exact hrange hw

end Param

namespace CallConfig

variable {v : Json} {c : CallConfig}

/-- How the entry of each field is checked. -/
def checks : Checks Json :=
  [("call_type", check (readNamed (α := CallType))), ("reference_count", check readByte),
    ("bitmap", check readWord), ("params", check (readList Param.ofJson))]

theorem nodup_checks : (checks.map Prod.fst).Nodup := nodup_names

theorem checkEntries_of_ofJson {entries : List (String × Json)}
    (h : ofJson (object entries) = .ok c) : checkEntries checks entries = .ok () := by
  obtain ⟨⟨⟩, hentries, -⟩ := exists_of_bind_eq_ok h
  exact hentries

/-- What stands for a field of a configuration that is read, is read. -/
theorem fields_of_ofJson (h : ofJson v = .ok c) :
    (∀ w, Field "reference_count" 1 v w → ∃ b, readByte w = .ok b) ∧
      (∀ w, Field "bitmap" 2 v w → ∃ b, readWord w = .ok b) ∧
      ∀ w, Field "params" 3 v w → ∃ params, readList Param.ofJson w = .ok params := by
  cases v with
  | object entries =>
    have hentries := checkEntries_of_ofJson h
    exact ⟨fun w hw => hw.read_of_object hentries nodup_checks (.tail _ (.head _)),
      fun w hw => hw.read_of_object hentries nodup_checks (.tail _ (.tail _ (.head _))),
      fun w hw => hw.read_of_object hentries nodup_checks (.tail _ (.tail _ (.tail _ (.head _))))⟩
  | array items =>
    obtain ⟨callType, -, h⟩ := exists_of_bind_eq_ok h
    obtain ⟨referenceCount, hcount, h⟩ := exists_of_bind_eq_ok h
    obtain ⟨bitmap, hbitmap, h⟩ := exists_of_bind_eq_ok h
    obtain ⟨params, hparams, -⟩ := exists_of_bind_eq_ok h
    exact ⟨fun w hw => hw.read_of_array hcount, fun w hw => hw.read_of_array hbitmap,
      fun w hw => hw.read_of_array hparams⟩
  | null | boolean | integer | real | string => cases h

theorem OutOfRange.not_read (h : OutOfRange v) : ofJson v ≠ .ok c := by
  intro hread
  obtain ⟨hcount, hbitmap, hparams⟩ := fields_of_ofJson hread
  cases h with
  | referenceCount hfield hrange =>
    obtain ⟨b, hb⟩ := hcount _ hfield
    exact hrange (isNatural_of_readByte hb)
  | bitmap hfield hrange =>
    obtain ⟨b, hb⟩ := hbitmap _ hfield
    exact hrange (isNatural_of_readWord hb)
  | param hfield hitem hparam =>
    obtain ⟨params, hread⟩ := hparams _ hfield
    obtain ⟨p, hp⟩ := exists_of_mem_of_readList hread hitem
    exact hparam.not_read hp

/-- **All forms of a configuration mean the same.** What is written is one of
them, the configuration is read from each, and from nothing with a number
that its field has no room for. -/
theorem all_forms_read_alike :
    (∀ c : CallConfig, c.Form c.toJson) ∧
      (∀ (c : CallConfig) (v : Json), c.Form v → ofJson v = .ok c) ∧
      ∀ v : Json, OutOfRange v → ∃ e, ofJson v = .error e := by
  refine ⟨form_toJson, fun c v h => ofJson_of_form h, fun v h => ?_⟩
  cases hread : ofJson v with
  | error e => exact ⟨e, rfl⟩
  | ok c => exact absurd hread h.not_read

/-- Params in both forms, a slot that is left out, members out of order with
others beside them; and a bitmap that is one too large. -/
theorem all_forms_read_alike_mixed :
    ofJson (object [("reference_count", integer 2),
        ("call_type", object [("dynamic_call", null)]), ("bitmap", integer 3), ("zone", null),
        ("params", array [object [("note", boolean true), ("position", integer 1)],
          array [integer 0, integer 255]])]) =
      .ok ⟨.dynamicCall, 2, 3, [⟨1, none⟩, ⟨0, some 255⟩]⟩ ∧
    ∃ e, ofJson (array [string "dynamic_call", integer 0, integer 18446744073709551616,
      array []]) = .error e := by
  obtain ⟨-, hread, hrefused⟩ := all_forms_read_alike
  have hfirst : Param.Form ⟨1, none⟩ (object [("note", boolean true), ("position", integer 1)]) :=
    .unassigned rfl (.refl _)
  have hsecond : Param.Form ⟨0, some 255⟩ (array [integer 0, integer 255]) := .items
  have hrange : ¬ (integer 18446744073709551616).IsNatural UInt64.size := by
    rintro ⟨n, hn, heq⟩
    have hn' : (18446744073709551616 : Int) = n := integer.inj heq
    have hsize : UInt64.size = 18446744073709551616 := rfl
    omega
  exact ⟨hread _ _ (.members .keyed (.cons hfirst (.cons hsecond .nil)) (.swap ..)),
    hrefused _ (.bitmap (.item rfl) hrange)⟩

end CallConfig

end CallDescriptor
