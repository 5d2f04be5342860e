import CallDescriptor.Proofs.Decoding
/-!
# The first failing check decides

`Verdict` says, without running anything, what is wrong with a text or
that nothing is: one rule for each check, in their order, each of which
asks that the checks before it passed. `refusal_decode_iff_verdict` is
the statement that decoding refuses for the reason of that one rule. So the order of
the checks is part of what is promised: a character outside ASCII is
blamed before a bad digit, the reference count before the trailer, and a
trailer no param needs is never blamed at all.
-/

namespace CallDescriptor

/-- Why a result was refused. -/
def refusal {α : Type} : Except DecodeError α → Option DecodeError
  | .error e => some e
  | .ok _ => none

open Reading Text in
/-- What the checks say of a text, `none` where all of them pass. -/
inductive Verdict (options : Options) (cs : List Char) : Option DecodeError → Prop
  /-- The text has too few or too many characters. -/
  | length (hlen : cs.length ≠ descriptorLength) :
      Verdict options cs (some (.malformed cs.length))
  /-- A character is outside ASCII, wherever it stands. -/
  | nonAscii {i : Nat} {c : Char} (hlen : cs.length = descriptorLength)
      (hc : FirstFailing isAscii cs 0 66 i c) :
      Verdict options cs (some (.invalidDigit i c))
  /-- A character of the number fields is no digit. -/
  | number {i : Nat} {c : Char} (hlen : cs.length = descriptorLength)
      (hascii : ∀ d ∈ cs, isAscii d = true) (hc : FirstFailing isHexDigit cs 4 22 i c) :
      Verdict options cs (some (.invalidDigit i c))
  /-- The declared reference count is wrong, and it matters. -/
  | count (hread : Readable cs) (hfull : options.validation = .full)
      (hcount : declared cs ≠ referenced cs) :
      Verdict options cs (some (.referenceCount (declared cs) (referenced cs)))
  /-- Without a referenced param the text is accepted, whatever its trailer. -/
  | noParam (hread : Readable cs)
      (hcount : options.validation = .full → declared cs = referenced cs)
      (hnone : referenced cs = 0) : Verdict options cs none
  /-- A character of the trailer is no digit. -/
  | trailer {i : Nat} {c : Char} (hread : Readable cs)
      (hcount : options.validation = .full → declared cs = referenced cs)
      (hsome : referenced cs ≠ 0) (hc : FirstFailing isHexDigit cs 22 66 i c) :
      Verdict options cs (some (.invalidDigit i c))
  /-- There are too few or too many slots, and it matters. -/
  | slots {bytes : List UInt8} (hread : Readable cs)
      (hcount : options.validation = .full → declared cs = referenced cs)
      (hsome : referenced cs ≠ 0)
      (hbytes : slotBytes options.padding (trailer cs) = .ok bytes)
      (hchecks : options.validation ≠ .permissive) (hslots : bytes.length ≠ referenced cs) :
      Verdict options cs (some (.slotCount bytes.length (referenced cs)))
  /-- Nothing is wrong. -/
  | accepted {bytes : List UInt8} (hread : Readable cs)
      (hcount : options.validation = .full → declared cs = referenced cs)
      (hsome : referenced cs ≠ 0)
      (hbytes : slotBytes options.padding (trailer cs) = .ok bytes)
      (hslots : options.validation ≠ .permissive → bytes.length = referenced cs) :
      Verdict options cs none

variable {options : Options} {cs : List Char} {text : String}

namespace Reading

/-- **What is checked behind the number fields**, rule by rule. -/
theorem verdict_checked (h : Readable cs) (options : Options) :
    Verdict options cs (refusal (checked cs options)) := by
  unfold checked
  by_cases hfull : options.validation = .full ∧ declared cs ≠ referenced cs
  · rw [if_pos hfull]
    exact .count h hfull.1 hfull.2
  · have hcount : options.validation = .full → declared cs = referenced cs := by
      rw [not_and, not_not] at hfull
      exact hfull
    rw [if_neg hfull]
    by_cases hnone : referenced cs = 0
    · rw [if_pos hnone]
      exact .noParam h hcount hnone
    · rw [if_neg hnone]
      have hbytes := slotBytes_trailer h.length_eq options.padding
      rcases blameFirst_span_cases Text.isHexDigit cs 22 66
        (if options.validation ≠ .permissive ∧
            (slots cs options.padding).length ≠ referenced cs then
          .error (.slotCount (slots cs options.padding).length (referenced cs))
        else .ok (config cs options.padding)) with ⟨i, c, hc, heq⟩ | ⟨hdigits, heq⟩
      · rw [show trailer cs = Text.span cs 22 66 from rfl, heq]
        exact .trailer h hcount hnone hc
      · have hok := hbytes.trans (blameFirst_of_forall hdigits _)
        rw [show trailer cs = Text.span cs 22 66 from rfl, heq]
        by_cases hslots : options.validation ≠ .permissive ∧
            (slots cs options.padding).length ≠ referenced cs
        · rw [if_pos hslots]
          exact .slots h hcount hnone hok hslots.1 hslots.2
        · rw [if_neg hslots]
          rw [not_and, not_not] at hslots
          exact .accepted h hcount hnone hok hslots

end Reading

/-- Past the length every check is one of a stretch. -/
theorem decode_of_length_eq (hlen : text.toList.length = descriptorLength) (options : Options) :
    decode options text =
      blameFirst Text.isAscii 0 (Text.span text.toList 0 66)
        (blameFirst Text.isHexDigit 4 (Text.span text.toList 4 22)
          (Reading.checked text.toList options)) := by
  rw [decode_eq, if_neg fun h => h hlen, Reading.span_whole hlen]

/-- Every text is refused or accepted by one of the rules. -/
theorem verdict_decode (options : Options) (text : String) :
    Verdict options text.toList (refusal (decode options text)) := by
  by_cases hlen : text.toList.length = descriptorLength
  · rw [decode_of_length_eq hlen]
    rcases blameFirst_span_cases Text.isAscii text.toList 0 66
      (blameFirst Text.isHexDigit 4 (Text.span text.toList 4 22)
        (Reading.checked text.toList options)) with ⟨i, c, hc, heq⟩ | ⟨hascii, heq⟩
    · rw [heq]
      exact .nonAscii hlen hc
    · rw [heq]
      rw [Reading.span_whole hlen] at hascii
      rcases blameFirst_span_cases Text.isHexDigit text.toList 4 22
        (Reading.checked text.toList options) with ⟨i, c, hc, heq⟩ | ⟨hdigits, heq⟩
      · rw [heq]
        exact .number hlen hascii hc
      · rw [heq]
        exact Reading.verdict_checked ⟨hlen, hascii, hdigits⟩ options
  · rw [decode_eq, if_pos hlen]
    exact .length hlen

/-- **No two rules disagree**: each of them says what decoding does. -/
theorem Verdict.refusal_eq {r : Option DecodeError} (h : Verdict options text.toList r) :
    refusal (decode options text) = r := by
  cases h with
  | length hlen => rw [decode_eq, if_pos hlen]; rfl
  | nonAscii hlen hc => rw [decode_of_length_eq hlen, blameFirst_of_firstFailing hc]; rfl
  | number hlen hascii hc =>
    rw [decode_of_length_eq hlen, Reading.span_whole hlen, blameFirst_of_forall hascii,
      blameFirst_of_firstFailing hc]
    rfl
  | count hread hfull hcount =>
    rw [decode_of_readable hread, Reading.checked, if_pos ⟨hfull, hcount⟩]
    rfl
  | noParam hread hcount hnone =>
    rw [decode_of_readable hread, Reading.checked, if_neg fun h => h.2 (hcount h.1),
      if_pos hnone]
    rfl
  | trailer hread hcount hsome hc =>
    rw [decode_of_readable hread, Reading.checked, if_neg fun h => h.2 (hcount h.1),
      if_neg hsome, show Reading.trailer text.toList = Text.span text.toList 22 66 from rfl,
      blameFirst_of_firstFailing hc]
    rfl
  | slots hread hcount hsome hbytes hchecks hslots =>
    rw [Reading.slotBytes_trailer hread.length_eq, blameFirst_eq_ok_iff] at hbytes
    obtain ⟨hdigits, hbytes⟩ := hbytes
    rw [Except.ok.injEq] at hbytes
    subst hbytes
    rw [decode_of_readable hread, Reading.checked, if_neg fun h => h.2 (hcount h.1),
      if_neg hsome, blameFirst_of_forall hdigits, if_pos ⟨hchecks, hslots⟩]
    rfl
  | accepted hread hcount hsome hbytes hslots =>
    rw [Reading.slotBytes_trailer hread.length_eq, blameFirst_eq_ok_iff] at hbytes
    obtain ⟨hdigits, hbytes⟩ := hbytes
    rw [Except.ok.injEq] at hbytes
    subst hbytes
    rw [decode_of_readable hread, Reading.checked, if_neg fun h => h.2 (hcount h.1),
      if_neg hsome, blameFirst_of_forall hdigits, if_neg fun h => h.2 (hslots h.1)]
    rfl

/-- **Whom a rule blames stands where it says.** -/
theorem Verdict.invalidDigit {i : Nat} {c : Char}
    (h : Verdict options cs (some (.invalidDigit i c))) :
    i < descriptorLength ∧ cs[i]? = some c ∧ Text.isHexDigit c = false := by
  cases h with
  | nonAscii hlen hc =>
    -- a character outside ASCII is no digit either
    refine ⟨hc.lt_last, hc.char_eq, Bool.eq_false_iff.2 fun hdigit => ?_⟩
    exact absurd (Text.isAscii_of_isHexDigit hdigit) (Bool.eq_false_iff.1 hc.fails)
  | number hlen hascii hc =>
    exact ⟨Nat.lt_trans hc.lt_last (by decide), hc.char_eq, hc.fails⟩
  | trailer hread hcount hsome hc => exact ⟨hc.lt_last, hc.char_eq, hc.fails⟩

/-- **The outcome of decoding is its first failing check.** The rules of
`Verdict` say exactly which texts are refused and why; a digit without a
partner is never the reason, and a bad digit that is blamed is the
character of the text at the offset given. -/
theorem refusal_decode_iff_verdict (options : Options) (text : String) :
    (∀ r, refusal (decode options text) = r ↔ Verdict options text.toList r) ∧
      (∀ offset, decode options text ≠ .error (.danglingDigit offset)) ∧
      ∀ offset found, decode options text = .error (.invalidDigit offset found) →
        offset < descriptorLength ∧ text.toList[offset]? = some found ∧
          Text.isHexDigit found = false := by
  have hverdict := verdict_decode options text
  refine ⟨fun r => ⟨fun h => h ▸ hverdict, Verdict.refusal_eq⟩, fun offset h => ?_,
    fun offset found h => ?_⟩
  · rw [h] at hverdict
    cases hverdict
  · rw [h] at hverdict
    exact hverdict.invalidDigit

end CallDescriptor
