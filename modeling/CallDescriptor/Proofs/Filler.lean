import Mathlib.Data.List.DropRight
import CallDescriptor.Proofs.Hex.Writing
import CallDescriptor.Slot
/-!
# What is left of a trailer

`slotBytes` is one check of the digits in front of `slotsLeft`, which
drops the filler in the way the padding asks for (`slotBytes_eq`). With
trailing padding whole bytes go from the right end, and what stays is
the one list without filler at its end that filler completes
(`eq_dropFiller_iff`). With legacy padding pairs of digits go wherever
they stand; a pair can be taken out anywhere without changing the rest
(`dropPairs_append_pair`), so filler behind the slots is dropped whether
or not a run of `f` starts before it.
-/

namespace CallDescriptor

/-! ## Filler at the right end -/

section Trailing

variable {bytes kept : List UInt8}

/-- What is dropped is filler. -/
theorem exists_dropFiller_append (bytes : List UInt8) :
    ∃ j, bytes = dropFiller bytes ++ List.replicate j filler := by
  have hdropped : ∀ b ∈ bytes.rtakeWhile (· == filler), b = filler := fun b hb =>
    eq_of_beq (List.mem_rtakeWhile_imp (p := (· == filler)) hb)
  refine ⟨(bytes.rtakeWhile (· == filler)).length, ?_⟩
  rw [← List.eq_replicate_of_mem hdropped]
  exact List.rdropWhile_append_rtakeWhile.symm

/-- What stays does not end in filler. -/
theorem getLast?_dropFiller (bytes : List UInt8) :
    (dropFiller bytes).getLast? ≠ some filler := by
  intro h
  have hne : dropFiller bytes ≠ [] := by
    rintro hnil
    rw [hnil] at h
    simp at h
  have hnot := List.rdropWhile_last_not (· == filler) bytes hne
  rw [List.getLast?_eq_some_getLast hne, Option.some.injEq] at h
  exact hnot (beq_iff_eq.2 h)

theorem dropFiller_append_replicate (bytes : List UInt8) (j : Nat) :
    dropFiller (bytes ++ List.replicate j filler) = dropFiller bytes := by
  induction j with
  | zero => rw [List.replicate_zero, List.append_nil]
  | succ j ih =>
    rw [List.replicate_succ', ← List.append_assoc]
    exact (List.rdropWhile_concat_pos (· == filler) _ filler (beq_self_eq_true _)).trans ih

theorem dropFiller_eq_self (h : bytes.getLast? ≠ some filler) : dropFiller bytes = bytes := by
  refine (List.rdropWhile_eq_self_iff (p := (· == filler))).2 fun hne hlast => h ?_
  rw [List.getLast?_eq_some_getLast hne, eq_of_beq hlast]

/-- **What stays is determined**: it does not end in filler, and filler
completes it. -/
theorem eq_dropFiller_iff :
    kept = dropFiller bytes ↔
      kept.getLast? ≠ some filler ∧ ∃ j, bytes = kept ++ List.replicate j filler := by
  constructor
  · rintro rfl
    exact ⟨getLast?_dropFiller bytes, exists_dropFiller_append bytes⟩
  · rintro ⟨hlast, j, rfl⟩
    rw [dropFiller_append_replicate, dropFiller_eq_self hlast]

theorem length_dropFiller_le (bytes : List UInt8) : (dropFiller bytes).length ≤ bytes.length :=
  (List.rdropWhile_prefix (· == filler) (l := bytes)).length_le

theorem drop_eq_replicate {n : Nat}
    (h : ∀ i, n ≤ i → i < bytes.length → bytes[i]? = some filler) :
    bytes.drop n = List.replicate (bytes.length - n) filler := by
  refine List.eq_replicate_iff.2 ⟨List.length_drop, fun b hb => ?_⟩
  obtain ⟨i, hi⟩ := List.mem_iff_getElem?.1 hb
  rw [List.getElem?_drop] at hi
  rw [h (n + i) (by omega) (List.getElem?_eq_some_iff.1 hi).1, Option.some.injEq] at hi
  exact hi.symm

/-- **Where the filler starts.** The first `n` bytes stay exactly when the
last of them is no filler and all behind it is. -/
theorem length_dropFiller_eq_iff {n : Nat} (hpos : 0 < n) (hn : n ≤ bytes.length) :
    (dropFiller bytes).length = n ↔
      bytes[n - 1]? ≠ some filler ∧
        ∀ i, n ≤ i → i < bytes.length → bytes[i]? = some filler := by
  constructor
  · intro hlen
    obtain ⟨j, hj⟩ := exists_dropFiller_append bytes
    have hlast := getLast?_dropFiller bytes
    generalize dropFiller bytes = kept at hlen hj hlast
    subst hj
    refine ⟨?_, fun i hi hlt => ?_⟩
    · rw [List.getElem?_append_left (by omega), ← hlen, ← List.getLast?_eq_getElem?]
      exact hlast
    · rw [List.length_append, List.length_replicate] at hlt
      rw [List.getElem?_append_right (by omega), List.getElem?_replicate_of_lt (by omega)]
  · rintro ⟨hlast, hfill⟩
    have hkept : bytes.take n = dropFiller bytes := by
      refine eq_dropFiller_iff.2 ⟨?_, bytes.length - n, ?_⟩
      · rw [List.getLast?_eq_getElem?, List.length_take, Nat.min_eq_left hn,
          List.getElem?_take_of_lt (by omega)]
        exact hlast
      · rw [← drop_eq_replicate hfill, List.take_append_drop]
    rw [← hkept, List.length_take, Nat.min_eq_left hn]

end Trailing

/-! ## Pairs of `f` anywhere -/

section Legacy

variable {cs : List Char}

theorem dropPairs_cons {c : Char} (h : c = 'f' → cs.head? ≠ some 'f') :
    dropPairs (c :: cs) = c :: dropPairs cs := by
  rw [dropPairs]
  rintro rest rfl rfl
  exact h rfl rfl

/-- **A pair can be taken out anywhere**, also where the digits around it
then make a new one. -/
theorem dropPairs_append_pair (cs ds : List Char) :
    dropPairs (cs ++ 'f' :: 'f' :: ds) = dropPairs (cs ++ ds) := by
  induction cs using dropPairs.induct with
  | case1 rest ih =>
    rw [List.cons_append, List.cons_append, List.cons_append, List.cons_append, dropPairs,
      dropPairs, ih]
  | case2 c rest hpair ih =>
    rw [List.cons_append, List.cons_append]
    match rest, hpair with
    | [], _ =>
      -- behind a last `f` another pair goes, and leaves an `f` all the same
      by_cases hc : c = 'f'
      · subst hc
        rw [List.nil_append, List.nil_append, dropPairs]
      · rw [dropPairs_cons fun h => absurd h hc, dropPairs_cons fun h => absurd h hc, ih]
    | d :: rest, hpair =>
      have hhead : ∀ es, c = 'f' → (d :: rest ++ es).head? ≠ some 'f' := by
        intro es hc hd
        rw [List.cons_append, List.head?_cons, Option.some.injEq] at hd
        exact hpair rest hc (by rw [hd])
      rw [dropPairs_cons (hhead _), dropPairs_cons (hhead _), ih]
  | case3 => rw [List.nil_append, List.nil_append, dropPairs]

theorem dropPairs_append_replicate (cs : List Char) (j : Nat) :
    dropPairs (cs ++ List.replicate (2 * j) 'f') = dropPairs cs := by
  induction j with
  | zero => rw [Nat.mul_zero, List.replicate_zero, List.append_nil]
  | succ j ih =>
    rw [show 2 * (j + 1) = 2 * j + 1 + 1 by omega, List.replicate_succ, List.replicate_succ,
      dropPairs_append_pair, ih]

theorem dropPairs_sublist (cs : List Char) : (dropPairs cs).Sublist cs := by
  induction cs using dropPairs.induct with
  | case1 rest ih =>
    rw [dropPairs]
    exact (ih.cons _).cons _
  | case2 c rest hpair ih =>
    rw [dropPairs]
    · exact ih.cons_cons _
    · exact hpair
  | case3 => exact List.Sublist.refl _

/-- Digits go in pairs, so an even number stays even. -/
theorem length_dropPairs_mod_two (cs : List Char) :
    (dropPairs cs).length % 2 = cs.length % 2 := by
  induction cs using dropPairs.induct with
  | case1 rest ih =>
    rw [dropPairs, List.length_cons, List.length_cons]
    omega
  | case2 c rest hpair ih =>
    rw [dropPairs]
    · rw [List.length_cons, List.length_cons]
      omega
    · exact hpair
  | case3 => rfl

/-- Without two adjacent `f` nothing is dropped. -/
theorem dropPairs_eq_self (h : ¬ ['f', 'f'] <:+: cs) : dropPairs cs = cs := by
  induction cs using dropPairs.induct with
  | case1 rest ih => exact absurd ⟨[], rest, rfl⟩ h
  | case2 c rest hpair ih =>
    rw [dropPairs]
    · rw [ih fun hin => h (hin.trans (List.suffix_cons c rest).isInfix)]
    · exact hpair
  | case3 => rfl

/-- With two adjacent `f` something is. -/
theorem length_dropPairs_lt (h : ['f', 'f'] <:+: cs) : (dropPairs cs).length < cs.length := by
  obtain ⟨before, after, rfl⟩ := h
  rw [List.append_assoc]
  have hpair : dropPairs (before ++ (['f', 'f'] ++ after)) = dropPairs (before ++ after) :=
    dropPairs_append_pair before after
  have hle := (dropPairs_sublist (before ++ after)).length_le
  rw [hpair]
  simp only [List.length_append, List.length_cons, List.length_nil] at hle ⊢
  omega

end Legacy

/-! ## The trailer as a whole -/

/-- Filler is written as pairs of `f`. -/
theorem flatMap_ofByte_replicate_filler (n : Nat) :
    (List.replicate n filler).flatMap Hex.ofByte = List.replicate (2 * n) 'f' := by
  induction n with
  | zero => rfl
  | succ n ih =>
    rw [List.replicate_succ, List.flatMap_cons, ih, show 2 * (n + 1) = 2 * n + 1 + 1 by omega,
      List.replicate_succ, List.replicate_succ]
    rfl

/-- The slots that the digits of a trailer hold. -/
def slotsLeft (padding : Padding) (digits : List Char) : List UInt8 :=
  match padding with
  | .trailing => dropFiller (Hex.octets digits)
  | .legacy => Hex.octets (dropPairs (digits.map Char.toLower))

/-- **Slot bytes are read alike with either padding**: the first bad
digit is blamed, then a last one without a partner, and only what is left
of good digits depends on the padding. -/
theorem slotBytes_eq (padding : Padding) (trailer : List Char) :
    slotBytes padding trailer = blameFirst Text.isHexDigit trailerOffset trailer
      (if trailer.length % 2 = 0 then .ok (slotsLeft padding trailer)
        else .error (.danglingDigit (trailerOffset + trailer.length - 1))) := by
  cases padding with
  | trailing =>
    rw [slotBytes, Hex.bytes_eq, blameFirst_bind]
    congr 1
    split
    · rfl
    · rfl
  | legacy =>
    rw [slotBytes, Hex.checkDigits_eq, blameFirst_bind]
    refine blameFirst_congr fun hdigits => ?_
    -- what is left is read once more, but nothing in it can be blamed
    have hkept : ∀ c ∈ dropPairs (trailer.map Char.toLower), Text.isHexDigit c = true := by
      intro c hc
      obtain ⟨d, hd, rfl⟩ := List.mem_map.1 ((dropPairs_sublist _).subset hc)
      rw [Text.isHexDigit_toLower]
      exact hdigits d hd
    have hparity := length_dropPairs_mod_two (trailer.map Char.toLower)
    rw [List.length_map] at hparity
    show (if (dropPairs (trailer.map Char.toLower)).length % 2 = 0 then _ else _) = _
    rw [hparity, Hex.bytes_eq, blameFirst_of_forall hkept, hparity]
    by_cases heven : trailer.length % 2 = 0
    · rw [if_pos heven, if_pos heven, if_pos heven]
      rfl
    · rw [if_neg heven, if_neg heven]

theorem length_slotsLeft_le (padding : Padding) (digits : List Char) :
    (slotsLeft padding digits).length ≤ digits.length / 2 := by
  cases padding with
  | trailing =>
    rw [← Hex.length_octets]
    exact length_dropFiller_le _
  | legacy =>
    have hle := (dropPairs_sublist (digits.map Char.toLower)).length_le
    rw [List.length_map] at hle
    rw [slotsLeft, Hex.length_octets]
    omega

end CallDescriptor
