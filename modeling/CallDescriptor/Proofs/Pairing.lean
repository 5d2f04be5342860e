import Mathlib.Data.List.Basic
import CallDescriptor.Proofs.Bitmap
import CallDescriptor.Slot
/-!
# Pairing from the right

`pairFromRight` walks both lists backwards and stops with the shorter
one. Read forwards (`pairFromRight_eq`) it leaves the params that have
no partner as they are, and gives the others the last slots in order.
-/

namespace CallDescriptor

variable {params : List Param} {slots : List UInt8}

/-- A param with the slot it is paired with. -/
def Param.withSlot (p : Param) (slot : UInt8) : Param := { p with slot := some slot }

@[simp] theorem Param.position_withSlot (p : Param) (slot : UInt8) :
    (p.withSlot slot).position = p.position := rfl

@[simp] theorem Param.slot_withSlot (p : Param) (slot : UInt8) :
    (p.withSlot slot).slot = some slot := rfl

theorem pair_eq (params : List Param) (slots : List UInt8) :
    pair params slots =
      List.zipWith Param.withSlot params slots ++ params.drop slots.length := by
  induction params, slots using pair.induct with
  | case1 p ps s ss ih =>
    rw [pair, ih, List.zipWith_cons_cons, List.length_cons, List.drop_succ_cons,
      List.cons_append]
    rfl
  | case2 ps ss hshort =>
    match ps, ss, hshort with
    | [], _, _ => simp [pair]
    | p :: ps, [], _ => simp [pair]
    | p :: ps, s :: ss, hshort => exact absurd rfl (hshort p ps s ss rfl)

/-- Lists zipped backwards are zipped where both of their ends reach. -/
theorem reverse_zipWith_reverse {α β γ : Type} (f : α → β → γ) (as : List α) (bs : List β) :
    (List.zipWith f as.reverse bs.reverse).reverse =
      List.zipWith f (as.drop (as.length - bs.length)) (bs.drop (bs.length - as.length)) := by
  -- `List.reverse_zipWith` needs equal lengths, so both are cut first
  have has : as.length - min as.length bs.length = as.length - bs.length := by omega
  have hbs : bs.length - min as.length bs.length = bs.length - as.length := by omega
  rw [List.zipWith_eq_zipWith_take_min, List.length_reverse, List.length_reverse,
    List.take_reverse, List.take_reverse, has, hbs, List.reverse_zipWith, List.reverse_reverse,
    List.reverse_reverse]
  rw [List.length_reverse, List.length_reverse, List.length_drop, List.length_drop]
  omega

/-- **Pairing, read forwards.** The surplus of params stands first and is
untouched; of a surplus of slots the first ones are dropped. -/
theorem pairFromRight_eq (params : List Param) (slots : List UInt8) :
    pairFromRight params slots =
      params.take (params.length - slots.length) ++
        List.zipWith Param.withSlot (params.drop (params.length - slots.length))
          (slots.drop (slots.length - params.length)) := by
  rw [pairFromRight, pair_eq, List.reverse_append, List.length_reverse, List.drop_reverse,
    List.reverse_reverse, reverse_zipWith_reverse]

@[simp] theorem length_pairFromRight (params : List Param) (slots : List UInt8) :
    (pairFromRight params slots).length = params.length := by
  rw [pairFromRight_eq, List.length_append, List.length_take, List.length_zipWith,
    List.length_drop, List.length_drop]
  omega

@[simp] theorem pairFromRight_nil (slots : List UInt8) : pairFromRight [] slots = [] :=
  List.length_eq_zero_iff.1 (length_pairFromRight [] slots)

/-- With a slot for each param they are paired in order. -/
theorem pairFromRight_of_length_eq (h : slots.length = params.length) :
    pairFromRight params slots = List.zipWith Param.withSlot params slots := by
  rw [pairFromRight_eq, h, Nat.sub_self, List.take_zero, List.nil_append, List.drop_zero,
    List.drop_zero]

theorem map_position_pair (params : List Param) (slots : List UInt8) :
    (pair params slots).map Param.position = params.map Param.position := by
  induction params, slots using pair.induct with
  | case1 p ps s ss ih => rw [pair, List.map_cons, List.map_cons, ih]
  | case2 ps ss hshort => rw [pair]; exact hshort

/-- **Pairing moves no param.** -/
theorem map_position_pairFromRight (params : List Param) (slots : List UInt8) :
    (pairFromRight params slots).map Param.position = params.map Param.position := by
  rw [pairFromRight, List.map_reverse, map_position_pair, List.map_reverse, List.reverse_reverse]

/-! ## Which params have a slot -/

theorem take_pairFromRight (params : List Param) (slots : List UInt8) :
    (pairFromRight params slots).take (params.length - slots.length) =
      params.take (params.length - slots.length) := by
  rw [pairFromRight_eq, List.take_left']
  rw [List.length_take]
  omega

theorem map_slot_zipWith (h : slots.length ≤ params.length) :
    (List.zipWith Param.withSlot params slots).map Param.slot = slots.map some := by
  induction slots generalizing params with
  | nil => rw [List.zipWith_nil_right]; rfl
  | cons s ss ih =>
    match params, h with
    | p :: ps, h =>
      rw [List.length_cons, List.length_cons] at h
      rw [List.zipWith_cons_cons, List.map_cons, List.map_cons, ih (by omega),
        Param.slot_withSlot]

/-- **The params behind the surplus carry the last slots in order.** -/
theorem map_slot_drop_pairFromRight (params : List Param) (slots : List UInt8) :
    ((pairFromRight params slots).drop (params.length - slots.length)).map Param.slot =
      (slots.drop (slots.length - params.length)).map some := by
  rw [pairFromRight_eq, List.drop_left', map_slot_zipWith]
  · rw [List.length_drop, List.length_drop]
    omega
  · rw [List.length_take]
    omega

/-- A param that was paired has a slot. -/
theorem filter_isNone_zipWith (params : List Param) (slots : List UInt8) :
    (List.zipWith Param.withSlot params slots).filter (fun p => p.slot.isNone) = [] := by
  rw [List.filter_eq_nil_iff, ← List.map_uncurry_zip_eq_zipWith]
  intro p hp
  obtain ⟨q, -, rfl⟩ := List.mem_map.1 hp
  exact Bool.false_ne_true

/-- **The surplus is what stays without a slot**, if nothing had one. -/
theorem filter_isNone_pairFromRight (h : ∀ p ∈ params, p.slot = none) (slots : List UInt8) :
    (pairFromRight params slots).filter (fun p => p.slot.isNone) =
      params.take (params.length - slots.length) := by
  have hnone : ∀ p ∈ params.take (params.length - slots.length), p.slot.isNone = true :=
    fun p hp => Option.isNone_iff_eq_none.2 (h p (List.mem_of_mem_take hp))
  rw [pairFromRight_eq, List.filter_append, List.filter_eq_self.2 hnone, filter_isNone_zipWith,
    List.append_nil]

/-- There are no more params with a slot than slots. -/
theorem countP_isSome_pairFromRight_le (h : ∀ p ∈ params, p.slot = none) (slots : List UInt8) :
    (pairFromRight params slots).countP (fun p => p.slot.isSome) ≤ slots.length := by
  have hsum := List.length_eq_countP_add_countP (l := pairFromRight params slots)
    (fun p => p.slot.isSome)
  have hnone : (pairFromRight params slots).countP (fun p => ¬ p.slot.isSome = true) =
      params.length - slots.length := by
    have hfilter := congrArg List.length (filter_isNone_pairFromRight h slots)
    rw [← List.countP_eq_length_filter, List.length_take] at hfilter
    rw [← Nat.min_eq_left (Nat.sub_le params.length slots.length), ← hfilter]
    refine List.countP_congr fun p _ => ?_
    cases p.slot <;> simp
  rw [hnone, length_pairFromRight] at hsum
  omega

/-- **The slots can be read off the params**, if nothing had one and there
is none too many. -/
theorem pairFromRight_eq_zipWith_iff {given : List UInt8} (h : ∀ p ∈ params, p.slot = none)
    (hle : slots.length ≤ params.length) (hgiven : given.length = params.length) :
    pairFromRight params slots = List.zipWith Param.withSlot params given ↔ slots = given := by
  constructor
  · intro heq
    -- no param is without a slot on the right, so none is on the left
    have hnone := congrArg (List.filter fun p => p.slot.isNone) heq
    rw [filter_isNone_pairFromRight h, filter_isNone_zipWith] at hnone
    have hshort := congrArg List.length hnone
    rw [List.length_take, List.length_nil] at hshort
    have hlen : slots.length = params.length := by omega
    have hslot := congrArg (List.map Param.slot) heq
    rw [pairFromRight_of_length_eq hlen, map_slot_zipWith hle,
      map_slot_zipWith (Nat.le_of_eq hgiven)] at hslot
    exact List.map_injective_iff.2 (fun _ _ => Option.some.inj) hslot
  · rintro rfl
    exact pairFromRight_of_length_eq hgiven

/-! ## The stage as a whole -/

theorem Validation.checksSlots_iff {v : Validation} : v.checksSlots = true ↔ v ≠ .permissive := by
  cases v <;> decide

theorem outcome_checkSlotCount (validation : Validation) (slots params : Nat) :
    (checkSlotCount validation slots params).outcome =
      if validation ≠ .permissive ∧ slots ≠ params then .error (.slotCount slots params)
      else .ok () := by
  unfold checkSlotCount
  by_cases hcount : slots = params
  · rw [if_pos hcount, if_neg fun h => h.2 hcount]
    rfl
  · rw [if_neg hcount]
    cases validation with
    | permissive => rfl
    | slots => exact (if_pos ⟨by decide, hcount⟩).symm
    | full => exact (if_pos ⟨by decide, hcount⟩).symm

/-- **Assigning slots, without its events.** -/
theorem outcome_assignSlots (options : Options) (trailer : List Char) (params : List Param) :
    (assignSlots options trailer params).outcome =
      if params = [] then .ok []
      else slotBytes options.padding trailer >>= fun slots =>
        if options.validation ≠ .permissive ∧ slots.length ≠ params.length then
          .error (.slotCount slots.length params.length)
        else .ok (pairFromRight params slots) := by
  unfold assignSlots
  by_cases hnil : params = []
  · rw [if_pos hnil, if_pos hnil]
    rfl
  · rw [if_neg hnil, if_neg hnil]
    simp only [Traced.outcome_bind, outcome_checkSlotCount, Traced.outcome_report,
      Traced.outcome_pure]
    show (slotBytes options.padding trailer >>= fun slots => _) = _
    congr 1
    funext slots
    split
    · rfl
    · rfl

end CallDescriptor
