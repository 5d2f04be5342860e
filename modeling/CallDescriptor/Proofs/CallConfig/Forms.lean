import CallDescriptor.CallConfig.Forms
import CallDescriptor.Proofs.Json.ReadBack
import CallDescriptor.Proofs.Record
/-!
# Configurations read back

A param and a call configuration are read from the object that they are
written as, whatever order its members have come into meanwhile.
-/

namespace CallDescriptor

open Json Record

/-! ## Members in another order -/

namespace Json

variable {name : String} {v : Json}

theorem insertMember_perm {members : List (String × Json)} (hname : name ∉ members.map Prod.fst) :
    (insertMember name v members).Perm ((name, v) :: members) := by
  induction members with
  | nil => exact .refl _
  | cons m members ih =>
    rw [List.map_cons, List.mem_cons, not_or] at hname
    rw [insertMember, if_neg hname.1]
    split
    · exact .refl _
    · exact ((ih hname.2).cons _).trans (.swap ..)

theorem foldl_insertMember_perm {members acc : List (String × Json)}
    (hnames : ((members ++ acc).map Prod.fst).Nodup) :
    (members.foldl (fun acc m => insertMember m.1 m.2 acc) acc).Perm (members ++ acc) := by
  -- The accumulator grows by members whose names are all new to it.
  induction members generalizing acc with
  | nil => exact .refl _
  | cons m members ih =>
    have hnew : m.1 ∉ acc.map Prod.fst := by
      rw [List.cons_append, List.map_cons, List.nodup_cons, List.map_append] at hnames
      exact fun hmem => hnames.1 (List.mem_append_right _ hmem)
    have hinsert : (members ++ insertMember m.1 m.2 acc).Perm (m :: members ++ acc) :=
      ((insertMember_perm hnew).append_left members).trans List.perm_middle
    exact (ih ((hinsert.map Prod.fst).nodup_iff.2 hnames)).trans hinsert

/-- **An object has the members that it is given**, if their names differ. -/
theorem exists_ofMembers_eq {members : List (String × Json)}
    (hnames : (members.map Prod.fst).Nodup) :
    ∃ entries, ofMembers members = object entries ∧ entries.Perm members := by
  have hperm := @foldl_insertMember_perm members [] (by rwa [List.append_nil])
  rw [List.append_nil] at hperm
  exact ⟨_, rfl, hperm⟩

end Json

/-! ## Scalars and lists -/

namespace Json

variable {α : Type}

theorem readNat_integer {n max : Nat} (wanted : String) (hn : n ≤ max) :
    readNat max wanted (integer n) = .ok n := by
  rw [readNat, if_pos ⟨Int.natCast_nonneg n, Int.ofNat_le.2 hn⟩]
  rfl

theorem readByte_integer (b : UInt8) : readByte (integer b.toNat) = .ok b := by
  have hb : b.toNat ≤ UInt8.size - 1 := Nat.le_pred_of_lt b.toNat_lt_size
  rw [readByte, readNat_integer _ hb]
  exact congrArg Except.ok UInt8.ofNat_toNat

theorem readWord_integer (w : UInt64) : readWord (integer w.toNat) = .ok w := by
  have hw : w.toNat ≤ UInt64.size - 1 := Nat.le_pred_of_lt w.toNat_lt_size
  rw [readWord, readNat_integer _ hw]
  exact congrArg Except.ok UInt64.ofNat_toNat

theorem readNamed_name (c : CallType) : readNamed (string (Named.name c)) = .ok c := by
  cases c <;> rfl

/-- A list reads if all of its items do. -/
theorem readList_map {read : Json → Except ReadError α} {write : α → Json} {as : List α}
    (h : ∀ a, read (write a) = .ok a) : readList read (array (as.map write)) = .ok as := by
  rw [readList]
  induction as with
  | nil => rfl
  | cons a as ih =>
    rw [List.map_cons, List.mapM_cons, h a, ih]
    rfl

end Json

/-! ## Records -/

/-- A param is read from any object that gives its position, and its slot or
none. -/
theorem Param.ofJson_of_fills {entries : List (String × Json)} {p : Param}
    (hposition : Gives entries "position" readByte p.position)
    (hslot : Fills entries "stack_slot" (readNullable readByte) none p.slot) :
    Param.ofJson (object entries) = .ok p := by
  have hchecks : checkEntries [("position", check readByte),
      ("stack_slot", check (readNullable readByte))] entries = .ok () := by
    refine checkEntries_eq_ok ?_
    simp only [List.forall_mem_cons, List.not_mem_nil, false_implies, implies_true, and_true]
    exact ⟨fun v => hposition.check_eq, hslot.accepted⟩
  rw [Param.ofJson, hchecks, hposition.required_eq, hslot.value_eq]
  rfl

/-- A configuration is read from any object that gives its four fields. -/
theorem CallConfig.ofJson_object {entries : List (String × Json)} {c : CallConfig}
    (hcallType : Gives entries "call_type" readNamed c.callType)
    (hreferenceCount : Gives entries "reference_count" readByte c.referenceCount)
    (hbitmap : Gives entries "bitmap" readWord c.bitmap)
    (hparams : Gives entries "params" (readList Param.ofJson) c.params) :
    CallConfig.ofJson (object entries) = .ok c := by
  have hchecks : checkEntries [("call_type", check (readNamed (α := CallType))),
      ("reference_count", check readByte), ("bitmap", check readWord),
      ("params", check (readList Param.ofJson))] entries = .ok () := by
    refine checkEntries_eq_ok ?_
    simp only [List.forall_mem_cons, List.not_mem_nil, false_implies, implies_true, and_true]
    exact ⟨fun v => hcallType.check_eq, fun v => hreferenceCount.check_eq,
      fun v => hbitmap.check_eq, fun v => hparams.check_eq⟩
  rw [CallConfig.ofJson, hchecks, hcallType.required_eq, hreferenceCount.required_eq,
    hbitmap.required_eq, hparams.required_eq]
  rfl

/-! ## What is written -/

theorem Param.nodup_names : ["position", "stack_slot"].Nodup := by decide +kernel

theorem CallConfig.nodup_names : ["call_type", "reference_count", "bitmap", "params"].Nodup := by
  decide +kernel

/-- The members of a param may stand in either order. -/
theorem Param.ofJson_of_perm {entries : List (String × Json)} {p : Param} {slot : Json}
    (hslot : readNullable readByte slot = .ok p.slot)
    (hperm : entries.Perm [("position", integer p.position.toNat), ("stack_slot", slot)]) :
    Param.ofJson (object entries) = .ok p :=
  Param.ofJson_of_fills
    (gives_of_perm hperm Param.nodup_names (.head _) (readByte_integer _))
    ((gives_of_perm hperm Param.nodup_names (.tail _ (.head _)) hslot).fills none)

/-- And those of a configuration in any. -/
theorem CallConfig.ofJson_of_perm {entries : List (String × Json)} {c : CallConfig} {params : Json}
    (hparams : readList Param.ofJson params = .ok c.params)
    (hperm : entries.Perm [("call_type", string (Named.name c.callType)),
      ("reference_count", integer c.referenceCount.toNat), ("bitmap", integer c.bitmap.toNat),
      ("params", params)]) :
    CallConfig.ofJson (object entries) = .ok c :=
  CallConfig.ofJson_object
    (gives_of_perm hperm CallConfig.nodup_names (.head _) (readNamed_name _))
    (gives_of_perm hperm CallConfig.nodup_names (.tail _ (.head _)) (readByte_integer _))
    (gives_of_perm hperm CallConfig.nodup_names (.tail _ (.tail _ (.head _))) (readWord_integer _))
    (gives_of_perm hperm CallConfig.nodup_names (.tail _ (.tail _ (.tail _ (.head _)))) hparams)

/-- The slot of a param, or null. -/
theorem Param.readNullable_slot (slot : Option UInt8) :
    readNullable readByte (match slot with
      | some s => integer s.toNat
      | none => null) = .ok slot := by
  cases slot with
  | none => rfl
  | some s =>
    have hslot : readNullable readByte (integer s.toNat) =
        some <$> readByte (integer s.toNat) := rfl
    exact hslot.trans (by rw [readByte_integer]; rfl)

theorem Param.ofJson_sorted_toJson (p : Param) : Param.ofJson p.toJson.sorted = .ok p := by
  obtain ⟨entries, hobject, hperm⟩ := @exists_ofMembers_eq
    [("position", integer p.position.toNat),
      ("stack_slot", match p.slot with
        | some s => integer s.toNat
        | none => null)] Param.nodup_names
  have hsorted : p.toJson.sorted = object entries := by
    rw [← hobject, Param.toJson, sorted, sortedMembers_eq_map]
    cases p.slot with
    | none => rfl
    | some s => rfl
  rw [hsorted]
  exact Param.ofJson_of_perm (Param.readNullable_slot p.slot) hperm

/-- **A configuration is read** from what it is written as, the members of
all objects sorted. -/
theorem CallConfig.ofJson_sorted_toJson (c : CallConfig) :
    CallConfig.ofJson c.toJson.sorted = .ok c := by
  obtain ⟨entries, hobject, hperm⟩ := @exists_ofMembers_eq
    [("call_type", string (Named.name c.callType)),
      ("reference_count", integer c.referenceCount.toNat), ("bitmap", integer c.bitmap.toNat),
      ("params", array (c.params.map fun p => p.toJson.sorted))] CallConfig.nodup_names
  have hsorted : c.toJson.sorted = object entries := by
    rw [← hobject, CallConfig.toJson, sorted, sortedMembers_eq_map]
    simp only [List.map_cons, List.map_nil, sorted, sortedItems_eq_map, List.map_map]
    rfl
  rw [hsorted]
  exact CallConfig.ofJson_of_perm (readList_map Param.ofJson_sorted_toJson) hperm

/-! ## Which texts can be read -/

theorem Json.plain_natural {d n : Nat} (hn : n < UInt64.size) : Plain d (integer n) := by
  have hsize : UInt64.size = 2 ^ 64 := rfl
  exact .integer (by omega) (by omega)

theorem Json.plain_byte {d : Nat} (b : UInt8) : Plain d (integer b.toNat) :=
  plain_natural (Nat.lt_trans b.toNat_lt_size (by decide))

theorem Param.plain_toJson {d : Nat} (p : Param) : Plain (d + 1) p.toJson := by
  refine .object ?_
  simp only [List.forall_mem_cons, List.not_mem_nil, false_implies, implies_true, and_true]
  refine ⟨plain_byte _, ?_⟩
  cases p.slot with
  | none => exact .null
  | some s => exact plain_byte s

/-- A configuration nests its params in a list in an object. -/
theorem CallConfig.plain_toJson {d : Nat} (c : CallConfig) : Plain (d + 3) c.toJson := by
  have hparams : Plain (d + 2) (array (c.params.map Param.toJson)) :=
    .array (List.forall_mem_map.2 fun p _ => p.plain_toJson)
  refine .object ?_
  simp only [List.forall_mem_cons, List.not_mem_nil, false_implies, implies_true, and_true]
  exact ⟨.string _, plain_byte _, plain_natural c.bitmap.toNat_lt_size, hparams⟩

end CallDescriptor
