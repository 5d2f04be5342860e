import CallDescriptor.Json.Reader
import CallDescriptor.Json.Writer
import CallDescriptor.Proofs.Text.Taking
import Mathlib.Tactic.SplitIfs
/-!
# Strings and numbers read back

A string with its escapes and an integer in decimal are read back by
`quotedString` and `number` as they were written. A string ends itself; a
number ends where the text that follows cannot go on with it, which
`NumberEnd` says.
-/

namespace CallDescriptor

namespace Json

open Text Text.Reader

variable {text rest : List Char} {c : Char}

/-! ## White space -/

/-- Whether `blank` passes over `c`. -/
def isBlank (c : Char) : Bool := c == ' ' || c == '\t' || c == '\n' || c == '\r'

theorem takes_blank : Takes blank text () (text.dropWhile isBlank) := by
  have hrun : Takes (takeWhile isBlank) text (text.takeWhile isBlank)
      (text.dropWhile isBlank) := rfl
  exact hrun.bind takes_pure

/-- A new line opens with white space only. -/
theorem dropWhile_newline (depth : Nat) (text : List Char) :
    (newline depth ++ text).dropWhile isBlank = text.dropWhile isBlank := by
  refine List.dropWhile_append_of_pos fun c hc => ?_
  obtain rfl | hspace := List.mem_cons.1 hc
  · rfl
  · rw [List.eq_of_mem_replicate hspace]
    rfl

/-! ## Strings -/

/-- The code unit of a control character. -/
theorem codeUnit_control : ∀ n < ' '.toNat,
    digitsValue 16 ['0', '0', Nat.digitChar (n / 16), Nat.digitChar (n % 16)] = n ∧
      ['0', '0', Nat.digitChar (n / 16), Nat.digitChar (n % 16)].all isHexDigit = true := by
  decide +kernel

/-- A control character reads back from its code unit, which is no half of a
surrogate pair. -/
theorem takes_codePoint (hc : c.toNat < ' '.toNat) :
    Takes codePoint
      (['0', '0', Nat.digitChar (c.toNat / 16), Nat.digitChar (c.toNat % 16)] ++ rest) c rest := by
  obtain ⟨hvalue, hhex⟩ := codeUnit_control c.toNat hc
  have hunit : Takes codeUnit
      (['0', '0', Nat.digitChar (c.toNat / 16), Nat.digitChar (c.toNat % 16)] ++ rest)
      c.toNat rest := by
    refine (takes_count (List.all_eq_true.1 hhex)).bind ?_
    rw [hvalue]
    exact takes_pure
  have hspace : ' '.toNat = 32 := rfl
  refine hunit.bind ?_
  rw [if_neg (by omega), if_neg (by omega), Char.ofNat_toNat]
  exact takes_pure

/-- **A character reads back** from the way it stands inside a string. -/
theorem takes_stringChar (c : Char) (rest : List Char) :
    Takes stringChar (escapeChar c ++ rest) c rest := by
  have hescaped {tail : List Char} (h : Takes escaped tail c rest) :
      Takes stringChar ('\\' :: tail) c rest :=
    (takes_satisfy (by decide)).bind h
  -- Seven characters are written by letter, control characters by code unit, the others plain.
  unfold escapeChar
  split_ifs with hquote hback hb hf hn hr ht hcontrol
  · subst hquote
    exact hescaped ((takes_satisfy rfl).bind takes_pure)
  · subst hback
    exact hescaped ((takes_satisfy rfl).bind takes_pure)
  · subst hb
    exact hescaped ((takes_satisfy rfl).bind takes_pure)
  · subst hf
    exact hescaped ((takes_satisfy rfl).bind takes_pure)
  · subst hn
    exact hescaped ((takes_satisfy rfl).bind takes_pure)
  · subst hr
    exact hescaped ((takes_satisfy rfl).bind takes_pure)
  · subst ht
    exact hescaped ((takes_satisfy rfl).bind takes_pure)
  · exact hescaped ((takes_satisfy rfl).bind (takes_codePoint hcontrol))
  · have hplain : (c != '"' && decide (' '.toNat ≤ c.toNat)) = true := by
      simpa [hquote] using hcontrol
    refine (takes_satisfy hplain).bind ?_
    rw [if_neg hback]
    exact takes_pure

/-- What stands for a character is not empty. -/
theorem escapeChar_ne_nil (c : Char) : escapeChar c ≠ [] := by
  unfold escapeChar
  split_ifs <;> exact List.cons_ne_nil _ _

theorem takesMany_stringChar (cs rest : List Char) :
    TakesMany stringChar (cs.flatMap escapeChar ++ '"' :: rest) cs ('"' :: rest) := by
  induction cs with
  | nil => exact .nil rfl
  | cons c cs ih =>
    rw [List.flatMap_cons, List.append_assoc]
    refine .cons (takes_stringChar c _) ?_ ih
    have hpos := List.length_pos_iff.2 (escapeChar_ne_nil c)
    simp only [List.length_append]
    omega

/-- **A string reads back**, whatever characters it holds. -/
theorem takes_quotedString (s : String) (rest : List Char) :
    Takes quotedString (quote s ++ rest) s rest := by
  have htext : quote s ++ rest = '"' :: (s.toList.flatMap escapeChar ++ '"' :: rest) := by
    rw [quote, List.append_assoc, List.cons_append, List.cons_append, List.nil_append]
  rw [htext]
  refine takes_char.bind ((takes_many (takesMany_stringChar s.toList rest)).bind
    (takes_char.bind ?_))
  rw [String.ofList_toList]
  exact takes_pure

/-! ## Numbers -/

/-- No number goes on with `rest`. -/
def NumberEnd (rest : List Char) : Prop :=
  ∀ c ∈ rest.head?, c.isDigit = false ∧ c ≠ '.' ∧ c ≠ 'e' ∧ c ≠ 'E'

/-- Only zero begins with a zero. -/
theorem head?_toDigits_ne_zero {n : Nat} (hn : 0 < n) :
    (Nat.toDigits 10 n).head? ≠ some '0' := by
  induction n using Nat.strongRecOn with
  | ind n ih =>
    rw [Nat.toDigits_eq_if (by decide)]
    split
    · next hlt =>
      have hdigit : ∀ m < 10, 0 < m → some (Nat.digitChar m) ≠ some '0' := by decide
      exact hdigit n hlt hn
    · next hge =>
      rw [List.head?_append, Option.or_of_isSome (List.isSome_head?.2 Nat.toDigits_ne_nil)]
      exact ih (n / 10) (by omega) (by omega)

theorem takes_wholeDigits (n : Nat) (hrest : NumberEnd rest) :
    Takes wholeDigits (Nat.toDigits 10 n ++ rest) (Nat.toDigits 10 n) rest := by
  have hdigits : Takes (takeWhile1 Char.isDigit) (Nat.toDigits 10 n ++ rest)
      (Nat.toDigits 10 n) rest :=
    takes_takeWhile1 Nat.toDigits_ne_nil
      (fun c hc => Nat.isDigit_of_mem_toDigits (by decide) (by decide) hc)
      fun c hc => (hrest c hc).1
  have hlead : ¬((Nat.toDigits 10 n).head? = some '0' ∧ (Nat.toDigits 10 n).length > 1) := by
    rintro ⟨hzero, hlong⟩
    obtain rfl | hpos := Nat.eq_zero_or_pos n
    · exact absurd hlong (by decide)
    · exact head?_toDigits_ne_zero hpos hzero
  refine hdigits.bind ?_
  rw [if_neg hlead]
  exact takes_pure

/-- Digits are all taken if the result fits. -/
theorem absorb_eq {cs : List Char} {acc : Nat} (hdigit : ∀ c ∈ cs, c.isDigit = true)
    (hfits : Nat.ofDigitChars 10 cs acc < UInt64.size) :
    absorb acc cs = (Nat.ofDigitChars 10 cs acc, 0) := by
  induction cs generalizing acc with
  | nil => rfl
  | cons c cs ih =>
    have hvalue : 10 * acc + digitValue c = 10 * acc + (c.toNat - '0'.toNat) := by
      rw [digitValue, if_pos (hdigit c List.mem_cons_self)]
    rw [Nat.ofDigitChars_cons] at hfits ⊢
    -- Further digits only add to what there is, so no step on the way is out of range.
    have hle (next : Nat) : next ≤ Nat.ofDigitChars 10 cs next := by
      rw [Nat.ofDigitChars_eq_ofDigitChars_zero]
      exact Nat.le_add_right_of_le (Nat.le_mul_of_pos_left _ (Nat.pow_pos (by decide)))
    rw [absorb, hvalue, if_pos (Nat.lt_of_le_of_lt (hle _) hfits)]
    exact ih (fun d hd => hdigit d (List.mem_cons_of_mem c hd)) hfits

theorem ofParts_toDigits (negative : Bool) {n : Nat} (hfits : n < UInt64.size) :
    ofParts negative (Nat.toDigits 10 n) none none =
      if negative then
        if 0 < n ∧ n ≤ UInt64.size / 2 then some (integer (-n)) else
          (Magnitude.ofScaled? n 0).map fun m => real (.finite true m)
      else some (integer n) := by
  have habsorb : absorb 0 (Nat.toDigits 10 n) = (n, 0) := by
    rw [absorb_eq (fun c hc => Nat.isDigit_of_mem_toDigits (by decide) (by decide) hc)]
    · rw [Nat.ofDigitChars_ten_toDigits]
    · rwa [Nat.ofDigitChars_ten_toDigits]
  cases negative with
  | false =>
    rw [ofParts, habsorb]
    rfl
  | true =>
    rw [ofParts, habsorb]
    rfl

/-- Behind a sign, which the text may do without, the digits make a number. -/
theorem takes_number {negative : Bool} {n : Nat} {v : Json}
    (hsign : Takes (accepts (char '-')) text negative (Nat.toDigits 10 n ++ rest))
    (hrest : NumberEnd rest) (hv : ofParts negative (Nat.toDigits 10 n) none none = some v) :
    Takes number text v rest := by
  have hend {c : Char} (hc : rest.head? = some c) := hrest c hc
  have hpoint : rest.head? ≠ some '.' := fun h => (hend h).2.1 rfl
  have hexponent : ¬(rest.head? = some 'e' ∨ rest.head? = some 'E') := by
    rintro (h | h)
    · exact (hend h).2.2.1 rfl
    · exact (hend h).2.2.2 rfl
  have hlift : Takes (StateT.lift (ofParts negative (Nat.toDigits 10 n) none none)) rest v
      rest := by
    rw [hv]
    rfl
  refine hsign.bind ((takes_wholeDigits n hrest).bind (takes_peek.bind ?_))
  rw [if_neg hpoint]
  refine takes_pure.bind (takes_peek.bind ?_)
  rw [if_neg hexponent]
  exact takes_pure.bind hlift

/-- The text of an integer is its digits, behind a sign if it is negative. -/
theorem toList_toString (i : Int) :
    (toString i).toList = (if i < 0 then ['-'] else []) ++ Nat.toDigits 10 i.natAbs := by
  cases i with
  | ofNat n =>
    have hnonneg : ¬Int.ofNat n < 0 := Int.not_lt.2 (Int.natCast_nonneg n)
    rw [if_neg hnonneg]
    exact String.toList_ofList
  | negSucc n =>
    have htext : (toString (Int.negSucc n)).toList =
        ("-" ++ String.ofList (Nat.toDigits 10 (n + 1))).toList := rfl
    have hdigits : (String.ofList (Nat.toDigits 10 (n + 1))).toList = Nat.toDigits 10 (n + 1) :=
      String.toList_ofList
    rw [if_pos (Int.negSucc_lt_zero n), htext, String.toList_append, hdigits]
    rfl

theorem exists_toDigits_eq_cons (n : Nat) :
    ∃ d ds, Nat.toDigits 10 n = d :: ds ∧ d.isDigit = true := by
  cases htext : Nat.toDigits 10 n with
  | nil => exact absurd htext Nat.toDigits_ne_nil
  | cons d ds =>
    exact ⟨d, ds, rfl, Nat.isDigit_of_mem_toDigits (by decide) (by decide)
      (htext ▸ List.mem_cons_self)⟩

/-- The text of an integer opens with a sign or a digit. -/
theorem exists_toString_eq_cons (i : Int) :
    ∃ c cs, (toString i).toList = c :: cs ∧ ∀ c', c' ≠ '-' → c'.isDigit = false → c ≠ c' := by
  rw [toList_toString]
  split
  · exact ⟨'-', _, rfl, fun _ hsign _ => hsign.symm⟩
  · obtain ⟨d, ds, hdigits, hd⟩ := exists_toDigits_eq_cons i.natAbs
    refine ⟨d, ds, hdigits, ?_⟩
    rintro c' - hc' rfl
    exact Bool.false_ne_true (hc'.symm.trans hd)

/-- **An integer reads back** if it is one of those that are kept. -/
theorem takes_number_toString {i : Int} (hlow : -(UInt64.size / 2 : Nat) ≤ i)
    (hhigh : i < UInt64.size) (hrest : NumberEnd rest) :
    Takes number ((toString i).toList ++ rest) (integer i) rest := by
  have hsize : UInt64.size = 2 ^ 64 := rfl
  rw [toList_toString, List.append_assoc]
  split
  · next hneg =>
    refine takes_number (takes_accepts takes_char) hrest ?_
    rw [ofParts_toDigits true (by omega), if_pos rfl, if_pos (by omega)]
    exact congrArg (some ∘ integer) (by omega)
  · next hneg =>
    obtain ⟨d, ds, hdigits, hd⟩ := exists_toDigits_eq_cons i.natAbs
    have hsign : (Nat.toDigits 10 i.natAbs ++ rest).head? ≠ some '-' := by
      rw [hdigits]
      rintro ⟨⟩
      exact absurd hd (by decide)
    refine takes_number (takes_accepts_of_refused (char_refuses hsign)) hrest ?_
    rw [ofParts_toDigits false (by omega), if_neg Bool.false_ne_true]
    exact congrArg (some ∘ integer) (by omega)

end Json

end CallDescriptor
