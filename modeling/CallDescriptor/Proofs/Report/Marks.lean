import CallDescriptor.Report
/-!
# Texts cut at their marks

A report joins texts of any length with fixed words between them. It can
be taken apart where a word holds a character, its mark, that the text
beside the word does not hold: from the left if that text stands in front
of the word (`append_inj_of_mark`), from the right if it stands behind
(`append_inj_of_mark_right`). Decimals hold digits only, so everything
else is a mark to them.
-/

namespace CallDescriptor

variable {α : Type} {as bs cs ds word : List α}

/-! ## Cutting -/

/-- A list has one first mark. -/
theorem append_cons_inj_of_first {mark : α} (has : mark ∉ as) (hcs : mark ∉ cs)
    (h : as ++ mark :: bs = cs ++ mark :: ds) : as = cs ∧ bs = ds := by
  induction as generalizing cs with
  | nil =>
    cases cs with
    | nil => exact ⟨rfl, (List.cons.inj h).2⟩
    | cons c cs => exact absurd ((List.cons.inj h).1 ▸ List.mem_cons_self) hcs
  | cons a as ih =>
    cases cs with
    | nil => exact absurd ((List.cons.inj h).1 ▸ List.mem_cons_self) has
    | cons c cs =>
      obtain ⟨hac, hrest⟩ := List.cons.inj h
      obtain ⟨rfl, rfl⟩ := ih (fun hmem => has (List.mem_cons_of_mem _ hmem))
        (fun hmem => hcs (List.mem_cons_of_mem _ hmem)) hrest
      exact ⟨by rw [hac], rfl⟩

/-- **What stands in front of a word can be read off**, if the word holds
a mark that it does not hold. -/
theorem append_inj_of_mark (mark : α) (hword : mark ∈ word) (has : mark ∉ as)
    (hcs : mark ∉ cs) (h : as ++ (word ++ bs) = cs ++ (word ++ ds)) : as = cs ∧ bs = ds := by
  obtain ⟨before, after, rfl, hbefore⟩ := List.eq_append_cons_of_mem hword
  have hcut : (as ++ before) ++ mark :: (after ++ bs) =
      (cs ++ before) ++ mark :: (after ++ ds) := by
    simpa only [List.append_assoc, List.cons_append] using h
  have hnot {es : List α} (hes : mark ∉ es) : mark ∉ es ++ before := fun hmem =>
    (List.mem_append.1 hmem).elim hes hbefore
  obtain ⟨hfront, hback⟩ := append_cons_inj_of_first (hnot has) (hnot hcs) hcut
  exact ⟨List.append_cancel_right hfront, List.append_cancel_left hback⟩

/-- **What stands behind a word can be read off** in the same way, however
often the word stands in front of it. -/
theorem append_inj_of_mark_right (mark : α) (hword : mark ∈ word) (hbs : mark ∉ bs)
    (hds : mark ∉ ds) (h : as ++ word ++ bs = cs ++ word ++ ds) : as = cs ∧ bs = ds := by
  have hback := congrArg List.reverse h
  simp only [List.reverse_append] at hback
  obtain ⟨hbsds, hascs⟩ := append_inj_of_mark mark (List.mem_reverse.2 hword)
    (mt List.mem_reverse.1 hbs) (mt List.mem_reverse.1 hds) hback
  exact ⟨List.reverse_inj.1 hascs, List.reverse_inj.1 hbsds⟩

/-- **A list can be read off the pieces that stand for its elements**, if each
can be read off in front of any text. -/
theorem flatMap_inj_of_append_inj {β : Type} {piece : β → List α} (hne : ∀ x, piece x ≠ [])
    (hinj : ∀ x y as bs, piece x ++ as = piece y ++ bs → x = y ∧ as = bs) {xs ys : List β}
    (h : xs.flatMap piece = ys.flatMap piece) : xs = ys := by
  have hcons (x : β) (xs : List β) : (x :: xs).flatMap piece ≠ [] := by
    rw [List.flatMap_cons]
    exact List.append_ne_nil_of_left_ne_nil (hne x) _
  induction xs generalizing ys with
  | nil =>
    cases ys with
    | nil => rfl
    | cons y ys => exact absurd h.symm (hcons y ys)
  | cons x xs ih =>
    cases ys with
    | nil => exact absurd h (hcons x xs)
    | cons y ys =>
      rw [List.flatMap_cons, List.flatMap_cons] at h
      obtain ⟨rfl, hrest⟩ := hinj _ _ _ _ h
      rw [ih hrest]

/-! ## Numbers -/

namespace Report

variable {c : Char}

theorem decimal_inj {m n : Nat} : decimal m = decimal n ↔ m = n := by
  refine ⟨fun h => ?_, congrArg decimal⟩
  have hread := congrArg (Nat.ofDigitChars 10 · 0) h
  simpa only [decimal, Nat.ofDigitChars_ten_toDigits] using hread

/-- Decimals hold digits only. -/
theorem not_mem_decimal (hc : c.isDigit = false) (n : Nat) : c ∉ decimal n := fun hmem =>
  Bool.false_ne_true (hc.symm.trans (Nat.isDigit_of_mem_toDigits (by decide) (by decide) hmem))

/-- A number tells itself from a word that stands where there is none, if the
word holds anything but digits. -/
theorem number_or_word_inj {slotWord : Option UInt8 → List Char}
    (hsome : ∀ s, slotWord (some s) = decimal s.toNat) (hc : c.isDigit = false)
    (hnone : c ∈ slotWord none) {slot₁ slot₂ : Option UInt8} :
    slotWord slot₁ = slotWord slot₂ ↔ slot₁ = slot₂ := by
  refine ⟨fun h => ?_, congrArg slotWord⟩
  have hnot (s : UInt8) : slotWord (some s) ≠ slotWord none := fun heq =>
    not_mem_decimal hc s.toNat (hsome s ▸ heq ▸ hnone)
  match slot₁, slot₂, h with
  | none, none, _ => rfl
  | none, some s, h => exact absurd h.symm (hnot s)
  | some s, none, h => exact absurd h (hnot s)
  | some s, some t, h =>
    rw [hsome, hsome] at h
    rw [UInt8.toNat_inj.1 (decimal_inj.1 h)]

/-- Positions in a row hold digits and what stands between them. -/
theorem not_mem_positionList (hc : c.isDigit = false) (hsep : c ∉ [',', ' '])
    (positions : List UInt8) : c ∉ positionList positions := by
  rw [positionList]
  induction positions with
  | nil => exact List.not_mem_nil
  | cons p ps ih =>
    cases ps with
    | nil =>
      rw [List.map_cons, List.map_nil, List.intercalate_singleton]
      exact not_mem_decimal hc _
    | cons q qs =>
      rw [List.map_cons, List.map_cons, List.intercalate_cons_cons, List.mem_append,
        List.mem_append, not_or, not_or]
      exact ⟨⟨not_mem_decimal hc _, hsep⟩, ih⟩

theorem positionList_cons_ne_nil (p : UInt8) (ps : List UInt8) : positionList (p :: ps) ≠ [] := by
  rw [positionList]
  cases ps with
  | nil =>
    rw [List.map_singleton, List.intercalate_singleton]
    exact Nat.toDigits_ne_nil
  | cons q ps =>
    rw [List.map_cons, List.map_cons, List.intercalate_cons_cons, List.append_assoc]
    exact List.append_ne_nil_of_left_ne_nil Nat.toDigits_ne_nil _

/-- With a separator behind the last position as well, each has one of its own. -/
theorem positionList_cons_append (p : UInt8) (ps : List UInt8) :
    positionList (p :: ps) ++ [',', ' '] =
      (p :: ps).flatMap fun q => decimal q.toNat ++ [',', ' '] := by
  induction ps generalizing p with
  | nil =>
    rw [positionList, List.map_singleton, List.intercalate_singleton, List.flatMap_singleton]
  | cons q ps ih =>
    have hcons : positionList (p :: q :: ps) =
        decimal p.toNat ++ [',', ' '] ++ positionList (q :: ps) := List.intercalate_cons_cons
    rw [hcons, List.append_assoc, ih q]
    rfl

/-- **A row of positions tells the positions.** -/
theorem positionList_inj {ps qs : List UInt8} : positionList ps = positionList qs ↔ ps = qs := by
  refine ⟨fun h => ?_, congrArg positionList⟩
  cases ps with
  | nil =>
    cases qs with
    | nil => rfl
    | cons q qs => exact absurd h.symm (positionList_cons_ne_nil q qs)
  | cons p ps =>
    cases qs with
    | nil => exact absurd h (positionList_cons_ne_nil p ps)
    | cons q qs =>
      have hrow := congrArg (· ++ [',', ' ']) h
      simp only [positionList_cons_append] at hrow
      refine flatMap_inj_of_append_inj (fun r => ?_) (fun r s as bs heq => ?_) hrow
      · exact List.append_ne_nil_of_left_ne_nil Nat.toDigits_ne_nil _
      · rw [List.append_assoc, List.append_assoc] at heq
        obtain ⟨hnumber, hrest⟩ := append_inj_of_mark ',' (by decide)
          (not_mem_decimal (by decide) _) (not_mem_decimal (by decide) _) heq
        exact ⟨UInt8.toNat_inj.1 (decimal_inj.1 hnumber), hrest⟩

end Report

end CallDescriptor
