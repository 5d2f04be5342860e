import CallDescriptor.Proofs.Pairing
/-!
# What assigning slots changes

Slots are assigned to any list of params, in any order and with slots of
earlier times, from a trailer of any length. `PairedFromRight` says place by
place, counted from the right, which params are given a slot and which stay
as they are. It leaves no choice (`pairedFromRight_iff`), so what becomes of
the slots of earlier times, and of a second assignment, is read off it.
-/

namespace CallDescriptor

variable {params paired : List Param} {slots : List UInt8}

/-! ## Place by place -/

/-- `paired` is `params` with slots, the last param with the last slot and so
on towards the left as far as both lists reach. -/
structure PairedFromRight (params : List Param) (slots : List UInt8) (paired : List Param) :
    Prop where
  length_eq : paired.length = params.length
  positions_eq : paired.map Param.position = params.map Param.position
  /-- Where both lists reach, a param has the slot at its own place from the right. -/
  slot_eq : ∀ i, i < params.length → ∀ hslot : i < slots.length,
    (paired[params.length - 1 - i]?).map Param.slot = some (some slots[slots.length - 1 - i])
  /-- Where there is no slot for it, a param is as it was. -/
  kept_eq : ∀ i, i < params.length → slots.length ≤ i →
    paired[params.length - 1 - i]? = params[params.length - 1 - i]?

theorem getElem?_pair (params : List Param) (slots : List UInt8) (i : Nat) :
    (pair params slots)[i]? = params[i]?.map fun p => (slots[i]?).elim p p.withSlot := by
  induction params, slots using pair.induct generalizing i with
  | case1 p ps s ss ih =>
    rw [pair]
    cases i with
    | zero => rfl
    | succ i => exact ih i
  | case2 ps ss hshort =>
    rw [pair]
    · cases ps with
      | nil => rfl
      | cons p ps =>
        cases ss with
        | nil => exact Option.map_id'.symm
        | cons s ss => exact absurd rfl (hshort p ps s ss rfl)
    · exact hshort

/-- Counted from the right, pairing is at every place by itself. -/
theorem getElem?_pairFromRight {i : Nat} (hi : i < params.length) :
    (pairFromRight params slots)[params.length - 1 - i]? =
      params[params.length - 1 - i]?.map fun p => (slots.reverse[i]?).elim p p.withSlot := by
  have hlen : (pair params.reverse slots.reverse).length = params.length := by
    have hpaired := length_pairFromRight params slots
    rwa [pairFromRight, List.length_reverse] at hpaired
  have hplace : params.length - 1 - (params.length - 1 - i) = i := by omega
  rw [pairFromRight, List.getElem?_reverse (by omega), hlen, hplace, getElem?_pair,
    List.getElem?_reverse hi]

/-- Pairing does what it should. -/
theorem pairedFromRight_pairFromRight (params : List Param) (slots : List UInt8) :
    PairedFromRight params slots (pairFromRight params slots) where
  length_eq := length_pairFromRight params slots
  positions_eq := map_position_pairFromRight params slots
  slot_eq i hi hslot := by
    rw [getElem?_pairFromRight hi, List.getElem?_reverse hslot,
      List.getElem?_eq_getElem (by omega), List.getElem?_eq_getElem (by omega)]
    rfl
  kept_eq i hi hslot := by
    have hnone : slots.reverse[i]? = none := by
      rw [List.getElem?_eq_none_iff, List.length_reverse]
      exact hslot
    rw [getElem?_pairFromRight hi, hnone]
    exact Option.map_id'

theorem Param.eq_of_fields {p q : Param} (hposition : p.position = q.position)
    (hslot : p.slot = q.slot) : p = q := by
  cases p
  cases q
  obtain rfl := hposition
  obtain rfl := hslot
  rfl

/-- **There is one way to pair from the right.** -/
theorem pairedFromRight_iff :
    PairedFromRight params slots paired ↔ paired = pairFromRight params slots := by
  refine ⟨fun h => ?_, fun h => h ▸ pairedFromRight_pairFromRight params slots⟩
  have hp := pairedFromRight_pairFromRight params slots
  refine List.ext_getElem? fun j => ?_
  rcases Nat.lt_or_ge j params.length with hj | hj
  · obtain ⟨i, hi, rfl⟩ : ∃ i, i < params.length ∧ params.length - 1 - i = j :=
      ⟨params.length - 1 - j, by omega, by omega⟩
    rcases Nat.lt_or_ge i slots.length with hslot | hslot
    · -- a param is its position and its slot, and both are settled
      have hposition := congrArg (·[params.length - 1 - i]?)
        (h.positions_eq.trans hp.positions_eq.symm)
      simp only [List.getElem?_map] at hposition
      have hslots := (h.slot_eq i hi hslot).trans (hp.slot_eq i hi hslot).symm
      rw [List.getElem?_eq_getElem (by rw [h.length_eq]; omega),
        List.getElem?_eq_getElem (by rw [hp.length_eq]; omega)] at hposition hslots ⊢
      exact congrArg some
        (Param.eq_of_fields (Option.some.inj hposition) (Option.some.inj hslots))
    · rw [h.kept_eq i hi hslot, hp.kept_eq i hi hslot]
  · rw [List.getElem?_eq_none (by rw [h.length_eq]; omega),
      List.getElem?_eq_none (by rw [hp.length_eq]; omega)]

/-! ## Slots of earlier times -/

/-- Enough slots leave nothing of the slots of earlier times. -/
theorem PairedFromRight.of_positions {earlier : List Param}
    (h : PairedFromRight params slots paired) (henough : params.length ≤ slots.length)
    (hpositions : earlier.map Param.position = params.map Param.position) :
    PairedFromRight earlier slots paired := by
  have hlen : earlier.length = params.length := by
    have hmap := congrArg List.length hpositions
    rwa [List.length_map, List.length_map] at hmap
  refine ⟨h.length_eq.trans hlen.symm, h.positions_eq.trans hpositions.symm,
    fun i hi hslot => ?_, fun i hi hslot => ?_⟩
  · rw [hlen] at hi ⊢
    exact h.slot_eq i hi hslot
  · omega

/-- What is paired is paired with the same slots already. -/
theorem PairedFromRight.idempotent (h : PairedFromRight params slots paired) :
    PairedFromRight paired slots paired := by
  refine ⟨rfl, rfl, fun i hi hslot => ?_, fun _ _ _ => rfl⟩
  rw [h.length_eq] at hi ⊢
  exact h.slot_eq i hi hslot

/-- Of a surplus of slots the first ones are dropped. -/
theorem PairedFromRight.map_slot (h : PairedFromRight params slots paired)
    (henough : params.length ≤ slots.length) :
    paired.map Param.slot = (slots.drop (slots.length - params.length)).map some := by
  have hslots := map_slot_drop_pairFromRight params slots
  rwa [Nat.sub_eq_zero_of_le henough, List.drop_zero, ← pairedFromRight_iff.1 h] at hslots

/-! ## The stage as a whole -/

/-- What becomes of `params` under a trailer. -/
inductive Assigned (options : Options) (trailer : List Char) (params : List Param) :
    Except DecodeError (List Param) → Prop
  /-- Without a param the trailer does not matter. -/
  | nothing (hnone : params = []) : Assigned options trailer params (.ok [])
  /-- What is wrong with the trailer comes before the counts. -/
  | unreadable {e : DecodeError} (hsome : params ≠ [])
      (hslots : slotBytes options.padding trailer = .error e) :
      Assigned options trailer params (.error e)
  /-- The counts differ, and they are checked. -/
  | miscounted {slots : List UInt8} (hsome : params ≠ [])
      (hslots : slotBytes options.padding trailer = .ok slots)
      (hcount : slots.length ≠ params.length) (hchecks : options.validation.checksSlots = true) :
      Assigned options trailer params (.error (.slotCount slots.length params.length))
  /-- The counts agree or are not checked. -/
  | paired {slots paired : List _} (hsome : params ≠ [])
      (hslots : slotBytes options.padding trailer = .ok slots)
      (hcount : slots.length = params.length ∨ options.validation.checksSlots = false)
      (hpaired : PairedFromRight params slots paired) :
      Assigned options trailer params (.ok paired)

variable {options : Options} {trailer : List Char} {r : Except DecodeError (List Param)}

theorem Assigned.outcome_eq (h : Assigned options trailer params r) :
    (assignSlots options trailer params).outcome = r := by
  rw [outcome_assignSlots]
  cases h with
  | nothing hnone => rw [if_pos hnone]
  | unreadable hsome hslots =>
    rw [if_neg hsome, hslots]
    rfl
  | miscounted hsome hslots hcount hchecks =>
    rw [if_neg hsome, hslots]
    exact if_pos ⟨Validation.checksSlots_iff.1 hchecks, hcount⟩
  | paired hsome hslots hcount hpaired =>
    rw [if_neg hsome, hslots, pairedFromRight_iff.1 hpaired]
    refine if_neg fun ⟨hchecks, hdiffer⟩ => ?_
    rcases hcount with hagree | hfree
    · exact hdiffer hagree
    · rw [Validation.checksSlots_iff.2 hchecks] at hfree
      exact absurd hfree (by decide)

theorem assigned_assignSlots (options : Options) (trailer : List Char) (params : List Param) :
    Assigned options trailer params (assignSlots options trailer params).outcome := by
  have hself {r} (h : Assigned options trailer params r) :
      Assigned options trailer params (assignSlots options trailer params).outcome :=
    h.outcome_eq ▸ h
  by_cases hnone : params = []
  · exact hself (.nothing hnone)
  cases hslots : slotBytes options.padding trailer with
  | error e => exact hself (.unreadable hnone hslots)
  | ok slots =>
    have hpaired := pairedFromRight_pairFromRight params slots
    by_cases hcount : slots.length = params.length
    · exact hself (.paired hnone hslots (.inl hcount) hpaired)
    cases hchecks : options.validation.checksSlots with
    | true => exact hself (.miscounted hnone hslots hcount hchecks)
    | false => exact hself (.paired hnone hslots (.inr hchecks) hpaired)

/-- **Slots are assigned as `Assigned` says** and in no other way. -/
theorem outcome_assignSlots_iff :
    (assignSlots options trailer params).outcome = r ↔ Assigned options trailer params r :=
  ⟨fun h => h ▸ assigned_assignSlots options trailer params, Assigned.outcome_eq⟩

/-- **An assignment is made once.** With the same trailer a second one
changes nothing. -/
theorem Assigned.idempotent (h : Assigned options trailer params (.ok paired)) :
    Assigned options trailer paired (.ok paired) := by
  cases h with
  | nothing => exact .nothing rfl
  | paired hsome hslots hcount hpaired =>
    refine .paired ?_ hslots ?_ hpaired.idempotent
    · rwa [← List.length_pos_iff, hpaired.length_eq, List.length_pos_iff]
    · rwa [hpaired.length_eq]

/-- **Slots of earlier times do not matter** where there are enough slots. -/
theorem Assigned.of_positions {earlier : List Param} (h : Assigned options trailer params r)
    (henough : ∀ slots, slotBytes options.padding trailer = .ok slots →
      params.length ≤ slots.length)
    (hpositions : earlier.map Param.position = params.map Param.position) :
    Assigned options trailer earlier r := by
  have hlen : earlier.length = params.length := by
    have hmap := congrArg List.length hpositions
    rwa [List.length_map, List.length_map] at hmap
  have hnil : earlier = [] ↔ params = [] := by
    rw [← List.length_eq_zero_iff, hlen, List.length_eq_zero_iff]
  cases h with
  | nothing hnone => exact .nothing (hnil.2 hnone)
  | unreadable hsome hslots => exact .unreadable (mt hnil.1 hsome) hslots
  | miscounted hsome hslots hcount hchecks =>
    rw [← hlen] at hcount ⊢
    exact .miscounted (mt hnil.1 hsome) hslots hcount hchecks
  | paired hsome hslots hcount hpaired =>
    rw [← hlen] at hcount
    exact .paired (mt hnil.1 hsome) hslots hcount
      (hpaired.of_positions (henough _ hslots) hpositions)

/-- **Slots are paired from the right and all else stays.** Whatever params
come in and whatever slots they have had, a fault of the trailer is blamed
before a difference of the counts. Where there are enough slots nothing of the
earlier ones is left and a surplus is dropped from the left, and with the same
trailer a second assignment changes nothing. -/
theorem assignSlots_pairs_from_right (options : Options) (trailer : List Char)
    (params : List Param) :
    (∀ r, (assignSlots options trailer params).outcome = r ↔
        Assigned options trailer params r) ∧
      (∀ slots, slotBytes options.padding trailer = .ok slots → params.length ≤ slots.length →
        (∀ earlier : List Param, earlier.map Param.position = params.map Param.position →
          (assignSlots options trailer earlier).outcome =
            (assignSlots options trailer params).outcome) ∧
        ∀ paired, (assignSlots options trailer params).outcome = .ok paired →
          paired.map Param.slot = (slots.drop (slots.length - params.length)).map some) ∧
      ∀ paired, (assignSlots options trailer params).outcome = .ok paired →
        (assignSlots options trailer paired).outcome = .ok paired := by
  refine ⟨fun r => outcome_assignSlots_iff, fun slots hslots henough => ⟨?_, ?_⟩,
    fun paired hpaired => ?_⟩
  · intro earlier hpositions
    refine ((assigned_assignSlots options trailer params).of_positions ?_ hpositions).outcome_eq
    intro slots' hslots'
    rwa [← Except.ok.inj (hslots.symm.trans hslots')]
  · intro paired hpaired
    cases outcome_assignSlots_iff.1 hpaired with
    | nothing hnone =>
      rw [hnone, List.length_nil, Nat.sub_zero, List.drop_length]
      rfl
    | paired hsome hslots' hcount hright =>
      obtain rfl := Except.ok.inj (hslots.symm.trans hslots')
      exact hright.map_slot henough
  · exact (outcome_assignSlots_iff.1 hpaired).idempotent.outcome_eq

/-- A position that occurs twice, slots of an earlier time and one slot too
many. -/
theorem assignSlots_pairs_from_right_surplus :
    slotBytes .trailing "0411fF05Ff".toList = .ok [0x04, 0x11, 0xff, 0x05] ∧
      (assignSlots {} "0411fF05Ff".toList
        [⟨200, some 9⟩, ⟨7, none⟩, ⟨200, some 1⟩]).outcome =
          .ok [⟨200, some 0x11⟩, ⟨7, some 0xff⟩, ⟨200, some 0x05⟩] ∧
      (assignSlots {} "0411fF05Ff".toList [⟨200, none⟩, ⟨7, some 3⟩, ⟨200, none⟩]).outcome =
        (assignSlots {} "0411fF05Ff".toList
          [⟨200, some 9⟩, ⟨7, none⟩, ⟨200, some 1⟩]).outcome ∧
      (assignSlots {} "0411fF05Ff".toList
        [⟨200, some 0x11⟩, ⟨7, some 0xff⟩, ⟨200, some 0x05⟩]).outcome =
          .ok [⟨200, some 0x11⟩, ⟨7, some 0xff⟩, ⟨200, some 0x05⟩] := by
  have hslots : slotBytes .trailing "0411fF05Ff".toList = .ok [0x04, 0x11, 0xff, 0x05] := by
    decide +kernel
  have hpaired : (assignSlots {} "0411fF05Ff".toList
      [⟨200, some 9⟩, ⟨7, none⟩, ⟨200, some 1⟩]).outcome =
        .ok [⟨200, some 0x11⟩, ⟨7, some 0xff⟩, ⟨200, some 0x05⟩] := by
    decide +kernel
  obtain ⟨-, henough, hagain⟩ := assignSlots_pairs_from_right {} "0411fF05Ff".toList
    [⟨200, some 9⟩, ⟨7, none⟩, ⟨200, some 1⟩]
  exact ⟨hslots, hpaired, (henough _ hslots (by decide)).1 _ rfl, hagain _ hpaired⟩

end CallDescriptor
