import Mathlib.Data.List.Basic
import CallDescriptor.Descriptor
/-!
# Stretches of a text, and the first character to blame

Every field of a descriptor is a stretch of its text, and every reader
of a field blames the first character that is not of the right kind, at
its offset in the whole text. `FirstFailing` says which character that
is without running anything; `blameFirst` is the check as a step in
front of the rest of the work, and `blameFirst_span_cases` ties the two
together.
-/

namespace CallDescriptor

namespace Text

variable {p : Char → Bool} {cs : List Char} {first last i : Nat} {c : Char}

/-! ## Stretches -/

/-- The characters from `first` up to but without `last`. -/
def span (cs : List Char) (first last : Nat) : List Char := (cs.drop first).take (last - first)

@[simp] theorem length_span :
    (span cs first last).length = min (last - first) (cs.length - first) := by
  simp [span]

theorem getElem?_span {k : Nat} (hk : k < last - first) :
    (span cs first last)[k]? = cs[first + k]? := by
  rw [span, List.getElem?_take_of_lt hk, List.getElem?_drop]

theorem getElem?_span_of_le {k : Nat} (hk : last - first ≤ k) :
    (span cs first last)[k]? = none := by
  rw [span, List.getElem?_take_eq_none hk]

/-- A stretch is made of two where it is cut. -/
theorem span_append {middle : Nat} (h₁ : first ≤ middle) (h₂ : middle ≤ last) :
    span cs first middle ++ span cs middle last = span cs first last := by
  have hcut : last - first = (middle - first) + (last - middle) := by omega
  have hdrop : cs.drop middle = (cs.drop first).drop (middle - first) := by
    rw [List.drop_drop, Nat.add_sub_cancel' h₁]
  rw [span, span, span, hcut, hdrop, List.take_add]

theorem mem_span_iff :
    c ∈ span cs first last ↔ ∃ i, first ≤ i ∧ i < last ∧ cs[i]? = some c := by
  rw [List.mem_iff_getElem?]
  constructor
  · rintro ⟨k, hc⟩
    have hk : k < last - first := by
      by_contra hk
      rw [getElem?_span_of_le (by omega)] at hc
      simp at hc
    rw [getElem?_span hk] at hc
    exact ⟨first + k, by omega, by omega, hc⟩
  · rintro ⟨i, hfirst, hlast, hc⟩
    refine ⟨i - first, ?_⟩
    rw [getElem?_span (by omega), Nat.add_sub_cancel' hfirst]
    exact hc

/-- A wider stretch holds more. -/
theorem mem_span_mono {first' last' : Nat} (hfirst : first' ≤ first) (hlast : last ≤ last')
    (h : c ∈ span cs first last) : c ∈ span cs first' last' := by
  obtain ⟨i, h₁, h₂, hc⟩ := mem_span_iff.1 h
  exact mem_span_iff.2 ⟨i, by omega, by omega, hc⟩

theorem map_span (f : Char → Char) : (span cs first last).map f = span (cs.map f) first last := by
  rw [span, span, List.map_take, List.map_drop]

/-- A stretch of a stretch is one of the text. -/
theorem span_span {a b : Nat} (h : first + b ≤ last) :
    span (span cs first last) a b = span cs (first + a) (first + b) := by
  rw [span, span, span, List.drop_take, List.take_take, List.drop_drop,
    Nat.min_eq_left (by omega), show first + b - (first + a) = b - a by omega]

/-- Two texts that look alike on a stretch look alike within it. -/
theorem map_span_congr {f : Char → Char} {ds : List Char} {first' last' : Nat}
    (h : (span cs first last).map f = (span ds first last).map f) (hfirst : first ≤ first')
    (hlast : last' ≤ last) (hle : first' ≤ last') :
    (span cs first' last').map f = (span ds first' last').map f := by
  have hcut (es : List Char) :
      span (span es first last) (first' - first) (last' - first) = span es first' last' := by
    rw [span_span (by omega), Nat.add_sub_cancel' hfirst,
      Nat.add_sub_cancel' (Nat.le_trans hfirst hle)]
  rw [← hcut cs, ← hcut ds, map_span, h, ← map_span]

/-- A part of a text stands where the parts before it end. -/
theorem span_middle {as bs ds : List Char} (hfirst : as.length = first)
    (hlast : first + bs.length = last) : span (as ++ (bs ++ ds)) first last = bs := by
  subst hfirst hlast
  rw [span, List.drop_left, Nat.add_sub_cancel_left, List.take_left]

/-- The whole text is a stretch of itself. -/
theorem span_zero_length (cs : List Char) : span cs 0 cs.length = cs := by
  rw [span, List.drop_zero, Nat.sub_zero, List.take_length]

/-! ## The first character that fails -/

/-- The first character that fails `p`, with its offset from `offset` on. -/
def firstFailing (p : Char → Bool) (offset : Nat) : List Char → Option (Nat × Char)
  | [] => none
  | c :: cs => if p c then firstFailing p (offset + 1) cs else some (offset, c)

/-- The character `c` at offset `i` is the first one from `first` up to
but without `last` that fails `p`. -/
structure FirstFailing (p : Char → Bool) (cs : List Char) (first last i : Nat) (c : Char) :
    Prop where
  first_le : first ≤ i
  lt_last : i < last
  char_eq : cs[i]? = some c
  fails : p c = false
  before : ∀ j d, first ≤ j → j < i → cs[j]? = some d → p d = true

theorem firstFailing_eq_none_iff (offset : Nat) :
    firstFailing p offset cs = none ↔ ∀ d ∈ cs, p d = true := by
  induction cs generalizing offset with
  | nil => simp [firstFailing]
  | cons d cs ih =>
    rw [firstFailing, List.forall_mem_cons]
    by_cases hd : p d = true
    · rw [if_pos hd, ih]
      exact ⟨fun h => ⟨hd, h⟩, fun h => h.2⟩
    · rw [if_neg hd]
      exact ⟨fun h => by simp at h, fun h => absurd h.1 hd⟩

theorem firstFailing_eq_some_iff {offset : Nat} :
    firstFailing p offset cs = some (i, c) ↔
      ∃ k, i = offset + k ∧ cs[k]? = some c ∧ p c = false ∧
        ∀ j d, j < k → cs[j]? = some d → p d = true := by
  induction cs generalizing offset with
  | nil => simp [firstFailing]
  | cons d cs ih =>
    rw [firstFailing]
    by_cases hd : p d = true
    · -- the head passes, so what is found stands one place further on
      rw [if_pos hd, ih]
      constructor
      · rintro ⟨k, rfl, hc, hfail, hbefore⟩
        refine ⟨k + 1, by omega, hc, hfail, fun j e hj he => ?_⟩
        cases j with
        | zero => rw [List.getElem?_cons_zero, Option.some.injEq] at he; exact he ▸ hd
        | succ j => exact hbefore j e (by omega) he
      · rintro ⟨k, rfl, hc, hfail, hbefore⟩
        cases k with
        | zero =>
          rw [List.getElem?_cons_zero, Option.some.injEq] at hc
          rw [← hc, hd] at hfail
          exact absurd hfail (by decide)
        | succ k =>
          exact ⟨k, by omega, hc, hfail, fun j e hj he => hbefore (j + 1) e (by omega) he⟩
    · -- the head is found, and nothing else can be
      rw [if_neg hd]
      constructor
      · intro h
        rw [Option.some.injEq, Prod.mk.injEq] at h
        obtain ⟨rfl, rfl⟩ := h
        exact ⟨0, rfl, rfl, Bool.eq_false_iff.2 hd, fun j e hj _ => absurd hj (by omega)⟩
      · rintro ⟨k, rfl, hc, -, hbefore⟩
        cases k with
        | zero => rw [List.getElem?_cons_zero, Option.some.injEq] at hc; rw [hc, Nat.add_zero]
        | succ k => exact absurd (hbefore 0 d (by omega) rfl) hd

/-- **The search finds what it should.** In a stretch searched from its
own offset, the finding is the first failing character of that stretch
of the whole text. -/
theorem firstFailing_span_eq_some_iff :
    firstFailing p first (span cs first last) = some (i, c) ↔
      FirstFailing p cs first last i c := by
  rw [firstFailing_eq_some_iff]
  constructor
  · rintro ⟨k, rfl, hc, hfail, hbefore⟩
    -- what is found stands inside the stretch
    have hk : k < last - first := by
      by_contra hk
      rw [getElem?_span_of_le (by omega)] at hc
      simp at hc
    refine ⟨by omega, by omega, by rw [← getElem?_span hk]; exact hc, hfail,
      fun j d hj hji hd => hbefore (j - first) d (by omega) ?_⟩
    rw [getElem?_span (by omega), Nat.add_sub_cancel' hj]
    exact hd
  · rintro ⟨hfirst, hlast, hc, hfail, hbefore⟩
    refine ⟨i - first, by omega, ?_, hfail, fun j d hj hd => ?_⟩
    · rw [getElem?_span (by omega), Nat.add_sub_cancel' hfirst]
      exact hc
    · rw [getElem?_span (by omega)] at hd
      exact hbefore (first + j) d (by omega) (by omega) hd

theorem firstFailing_append {offset : Nat} {ds : List Char} :
    firstFailing p offset (cs ++ ds) =
      (firstFailing p offset cs).or (firstFailing p (offset + cs.length) ds) := by
  induction cs generalizing offset with
  | nil => rfl
  | cons d cs ih =>
    rw [List.cons_append, firstFailing, firstFailing, ih, List.length_cons,
      Nat.add_right_comm, Nat.add_assoc]
    split
    · rfl
    · rfl

/-- Whether `c` is in ASCII. -/
def isAscii (c : Char) : Bool := c.toNat < 128

end Text

/-! ## The check as a step -/

variable {α β : Type} {p : Char → Bool} {cs : List Char} {offset : Nat}

/-- `x`, unless a character of `cs` fails `p`: then the first of them is
blamed, `cs` standing at `offset`. -/
def blameFirst (p : Char → Bool) (offset : Nat) (cs : List Char) (x : Except DecodeError α) :
    Except DecodeError α :=
  match Text.firstFailing p offset cs with
  | some (i, c) => .error (.invalidDigit i c)
  | none => x

@[simp] theorem blameFirst_nil (x : Except DecodeError α) : blameFirst p offset [] x = x := rfl

theorem blameFirst_cons (c : Char) (x : Except DecodeError α) :
    blameFirst p offset (c :: cs) x =
      if p c then blameFirst p (offset + 1) cs x else .error (.invalidDigit offset c) := by
  rw [blameFirst, blameFirst, Text.firstFailing]
  by_cases hc : p c = true
  · rw [if_pos hc, if_pos hc]
  · rw [if_neg hc, if_neg hc]

theorem blameFirst_of_forall (h : ∀ c ∈ cs, p c = true) (x : Except DecodeError α) :
    blameFirst p offset cs x = x := by
  rw [blameFirst, (Text.firstFailing_eq_none_iff _).2 h]

/-- Behind the check every character is of the right kind. -/
theorem blameFirst_congr {x y : Except DecodeError α} (h : (∀ c ∈ cs, p c = true) → x = y) :
    blameFirst p offset cs x = blameFirst p offset cs y := by
  rw [blameFirst, blameFirst]
  split
  · rfl
  · next hnone => exact h ((Text.firstFailing_eq_none_iff _).1 hnone)

/-- Two stretches in a row are checked in a row. -/
theorem blameFirst_append (ds : List Char) (x : Except DecodeError α) :
    blameFirst p offset (cs ++ ds) x =
      blameFirst p offset cs (blameFirst p (offset + cs.length) ds x) := by
  rw [blameFirst, blameFirst, blameFirst, Text.firstFailing_append]
  cases Text.firstFailing p offset cs with
  | none => rfl
  | some found => rfl

/-- What follows the check may be moved behind it. -/
theorem blameFirst_bind (x : Except DecodeError α) (f : α → Except DecodeError β) :
    blameFirst p offset cs x >>= f = blameFirst p offset cs (x >>= f) := by
  rw [blameFirst, blameFirst]
  split
  · rfl
  · rfl

/-- The check lets just good characters pass. -/
theorem blameFirst_eq_ok_iff {x : Except DecodeError α} {a : α} :
    blameFirst p offset cs x = .ok a ↔ (∀ c ∈ cs, p c = true) ∧ x = .ok a := by
  rw [blameFirst, ← Text.firstFailing_eq_none_iff offset]
  split
  · next heq =>
    rw [heq]
    exact ⟨nofun, fun h => absurd h.1 nofun⟩
  · next heq =>
    rw [heq]
    exact ⟨fun h => ⟨rfl, h⟩, fun h => h.2⟩

theorem ite_error_eq_ok_iff {P : Prop} [Decidable P] {e : DecodeError}
    {x : Except DecodeError α} {a : α} :
    (if P then .error e else x) = .ok a ↔ ¬ P ∧ x = .ok a := by
  by_cases hP : P
  · rw [if_pos hP]
    exact ⟨nofun, fun h => absurd hP h.1⟩
  · rw [if_neg hP]
    exact ⟨fun h => ⟨hP, h⟩, fun h => h.2⟩

/-- **The check passes or blames**, and never touches what it guards. -/
theorem blameFirst_span_cases (p : Char → Bool) (cs : List Char) (first last : Nat)
    (x : Except DecodeError α) :
    (∃ i c, Text.FirstFailing p cs first last i c ∧
      blameFirst p first (Text.span cs first last) x = .error (.invalidDigit i c)) ∨
    ((∀ c ∈ Text.span cs first last, p c = true) ∧
      blameFirst p first (Text.span cs first last) x = x) := by
  unfold blameFirst
  split
  · next i c h => exact .inl ⟨i, c, Text.firstFailing_span_eq_some_iff.1 h, rfl⟩
  · next h => exact .inr ⟨(Text.firstFailing_eq_none_iff _).1 h, rfl⟩

/-- Where there is a first failing character the check blames it. -/
theorem blameFirst_of_firstFailing {first last i : Nat} {c : Char}
    (h : Text.FirstFailing p cs first last i c) (x : Except DecodeError α) :
    blameFirst p first (Text.span cs first last) x = .error (.invalidDigit i c) := by
  rw [blameFirst, Text.firstFailing_span_eq_some_iff.2 h]

/-! ## Descriptors -/

namespace Descriptor

theorem findNonAscii_eq (offset : Nat) (cs : List Char) :
    findNonAscii offset cs = Text.firstFailing Text.isAscii offset cs := by
  induction cs generalizing offset with
  | nil => rfl
  | cons c cs ih =>
    rw [findNonAscii, Text.firstFailing, ih]
    simp only [Text.isAscii, decide_eq_true_eq]

theorem ofString_of_length_ne {text : String} (h : text.toList.length ≠ descriptorLength) :
    ofString text = .error (.malformed text.toList.length) := by
  rw [ofString, dif_neg h]

/-- **A text of the right length is a descriptor or holds a character to
blame**, and the descriptor has that text. -/
theorem ofString_bind {text : String} (h : text.toList.length = descriptorLength)
    {f : Descriptor → Except DecodeError α} {x : Except DecodeError α}
    (hf : ∀ d : Descriptor, d.text = text → f d = x) :
    ofString text >>= f = blameFirst Text.isAscii 0 text.toList x := by
  rw [ofString, dif_pos h, blameFirst, ← findNonAscii_eq]
  split
  · next heq => rw [heq]; rfl
  · next heq =>
    simp only [heq]
    exact hf _ rfl

theorem text_of_ofString {text : String} {d : Descriptor} (h : ofString text = .ok d) :
    d.text = text := by
  by_cases hlen : text.toList.length = descriptorLength
  · have htext : (ofString text >>= fun d => .ok d.text) =
        blameFirst Text.isAscii 0 text.toList (.ok text) :=
      ofString_bind hlen fun d hd => by rw [hd]
    rw [h] at htext
    exact (Except.ok.inj (blameFirst_eq_ok_iff.1 htext.symm).2).symm
  · rw [ofString_of_length_ne hlen] at h
    exact absurd h nofun

end Descriptor

end CallDescriptor
