import CallDescriptor.Log.Record
import CallDescriptor.Proofs.Report.Text
/-!
# Lines of the log tell events apart

A line of the log says which event it is about and all that the event
carries. Up to its closing bracket it names a level and a target, which no two
kinds of events share. Behind it the message is cut at its words as a report
is: a quoted digit is read back by `unescape`, the bitmap is as wide as ever,
and a number ends where a word goes on with a letter (`line_ofEvent_inj`).
-/

namespace CallDescriptor

open Report

/-! ## Quoted characters -/

namespace Text

/-- Digits spell the number they are written for. -/
theorem digitsValue_toDigits (n : Nat) : digitsValue 16 (Nat.toDigits 16 n) = n := by
  induction n using Nat.strongRecOn with
  | ind n ih =>
    rw [Nat.toDigits_eq_if (by decide)]
    split
    · next hlt =>
      rw [← List.nil_append [Nat.digitChar n], digitsValue_concat, Hex.digitValue_digitChar hlt]
      exact Nat.zero_add n
    · next hge =>
      have hdigit := Hex.digitValue_digitChar (Nat.mod_lt n (by decide : 0 < 16))
      rw [digitsValue_concat, ih (n / 16) (by omega), hdigit]
      omega

/-- The character that stands between single quotes. -/
def unescape : List Char → Char
  | [_, '0'] => '\x00'
  | [_, 't'] => '\t'
  | [_, 'n'] => '\n'
  | [_, 'r'] => '\r'
  | [_, c] => c
  | _ :: _ :: _ :: digits => Char.ofNat (digitsValue 16 digits.dropLast)
  | [c] => c
  | [] => default

/-- **What is escaped can be read back.** -/
theorem unescape_escape (c : Char) : unescape (escape '\'' c) = c := by
  unfold escape
  split
  · next h => exact h.symm
  split
  · next h => exact h.symm
  split
  · next h => exact h.symm
  split
  · next h => exact h.symm
  split
  · next h =>
    rcases h with rfl | rfl
    · rfl
    · rfl
  split
  · show Char.ofNat (digitsValue 16 (Nat.toDigits 16 c.toNat ++ ['\x7d']).dropLast) = c
    rw [List.dropLast_concat, digitsValue_toDigits, Char.ofNat_toNat]
  · rfl

/-- So no two characters are quoted alike. -/
theorem quoteChar_inj {c d : Char} : quoteChar c = quoteChar d ↔ c = d := by
  refine ⟨fun h => ?_, congrArg quoteChar⟩
  have hquoted := String.ofList_injective h
  rw [List.flatMap_singleton, List.flatMap_singleton] at hquoted
  have hescape := List.append_cancel_right (List.cons.inj hquoted).2
  rw [← unescape_escape c, hescape, unescape_escape d]

end Text

/-! ## Messages -/

namespace LogRecord

theorem toList_positionList (positions : List UInt8) :
    (positionList positions).toList = ['['] ++ Report.positionList positions ++ [']'] := by
  have hdecimals : (positions.map fun p => toString p.toNat).map String.toList =
      positions.map fun p => decimal p.toNat := by
    rw [List.map_map]
    exact List.map_congr_left fun p _ => Nat.toList_repr
  rw [positionList, String.toList_append, String.toList_append, String.toList_intercalate,
    hdecimals]
  rfl

theorem callType_inj {digit digit' : Char} {callType callType' : CallType}
    (h : (ofEvent (.callType digit callType)).message =
      (ofEvent (.callType digit' callType')).message) :
    digit = digit' ∧ callType = callType' := by
  have hlabel (c : CallType) : '>' ∉ c.label.toList := by cases c <;> decide
  have hcut := congrArg String.toList h
  simp only [ofEvent, String.toList_append] at hcut
  obtain ⟨hfront, hback⟩ := append_inj_of_mark_right '>' (by decide) (hlabel _) (hlabel _) hcut
  have hquote := String.toList_inj.1 (List.append_cancel_left hfront)
  exact ⟨Text.quoteChar_inj.1 hquote, CallType.label_inj.1 (String.toList_inj.1 hback)⟩

theorem bitmap_inj {bitmap bitmap' : UInt64} {positions positions' : List UInt8}
    (h : (ofEvent (.bitmap bitmap positions)).message =
      (ofEvent (.bitmap bitmap' positions')).message) :
    bitmap = bitmap' ∧ positions = positions' := by
  have hcut := congrArg String.toList h
  simp only [ofEvent, String.toList_append, String.toList_ofList, toList_positionList,
    List.append_assoc] at hcut
  have hwidth : (Hex.ofWord bitmap).length = (Hex.ofWord bitmap').length := by
    rw [Hex.length_ofWord, Hex.length_ofWord]
  obtain ⟨hbitmap, hback⟩ := List.append_inj (List.append_cancel_left hcut) hwidth
  have hlist := List.append_cancel_right (List.append_cancel_left (List.append_cancel_left hback))
  exact ⟨Hex.ofWord_inj.1 hbitmap, positionList_inj.1 hlist⟩

/-- Two numbers with a word between them can be read off, if the word holds
anything but digits. -/
theorem numbers_inj (mark : Char) {start word rest : String} {m n m' n' : Nat}
    (hmark : mark.isDigit = false) (hword : mark ∈ word.toList)
    (h : start ++ toString m ++ word ++ toString n ++ rest =
      start ++ toString m' ++ word ++ toString n' ++ rest) : m = m' ∧ n = n' := by
  have hdecimal (k : Nat) : (toString k).toList = decimal k := Nat.toList_repr
  have hcut := congrArg String.toList h
  simp only [String.toList_append, hdecimal, List.append_assoc] at hcut
  obtain ⟨hm, hback⟩ := append_inj_of_mark mark hword (not_mem_decimal hmark m)
    (not_mem_decimal hmark m') (List.append_cancel_left hcut)
  exact ⟨decimal_inj.1 hm, decimal_inj.1 (List.append_cancel_right hback)⟩

end LogRecord

/-! ## Lines -/

namespace LogRecord

/-- **Records tell events apart.** -/
theorem ofEvent_injective : Function.Injective ofEvent := by
  intro e e' h
  have hmessage := congrArg message h
  -- events of two kinds differ in their level or their target
  cases e with
  | callType digit callType =>
    cases e' with
    | callType digit' callType' =>
      obtain ⟨rfl, rfl⟩ := callType_inj hmessage
      rfl
    | bitmap | referenceCount | slotCount | paired => simp [ofEvent] at h
  | bitmap bitmap positions =>
    cases e' with
    | bitmap bitmap' positions' =>
      obtain ⟨rfl, rfl⟩ := bitmap_inj hmessage
      rfl
    | callType | referenceCount | slotCount | paired => simp [ofEvent] at h
  | referenceCount declared referenced =>
    cases e' with
    | referenceCount declared' referenced' =>
      obtain ⟨rfl, rfl⟩ := numbers_inj 'd' (by decide) (by decide) hmessage
      rfl
    | callType | bitmap | slotCount | paired => simp [ofEvent] at h
  | slotCount slots params =>
    cases e' with
    | slotCount slots' params' =>
      obtain ⟨rfl, rfl⟩ := numbers_inj 's' (by decide) (by decide) hmessage
      rfl
    | callType | bitmap | referenceCount | paired => simp [ofEvent] at h
  | paired position slot =>
    cases e' with
    | paired position' slot' =>
      obtain ⟨hposition, hslot⟩ := numbers_inj ']' (by decide) (by decide) hmessage
      rw [UInt8.toNat_inj.1 hposition, UInt8.toNat_inj.1 hslot]
    | callType | bitmap | referenceCount | slotCount => simp [ofEvent] at h

/-- What a line has in front of the bracket that closes its heading. -/
def heading (level : Level) (target : String) : String :=
  let name := Named.name level
  "[" ++ name ++ String.ofList (List.replicate (5 - name.length) ' ') ++ " " ++ target

/-- The levels and targets of events. -/
def origins : List (Level × String) :=
  [(.debug, "taskcfg_core::call_type"), (.debug, "taskcfg_core::params"), (.debug, "taskcfg_core"),
    (.warn, "taskcfg_core::slots"), (.trace, "taskcfg_core::slots")]

theorem origin_mem_origins (e : Event) : ((ofEvent e).level, (ofEvent e).target) ∈ origins := by
  cases e <;> simp [ofEvent, origins]

/-- **So do their lines.** -/
theorem line_ofEvent_inj {e e' : Event} : (ofEvent e).line = (ofEvent e').line ↔ e = e' := by
  refine ⟨fun h => ofEvent_injective ?_, fun h => congrArg (fun e => (ofEvent e).line) h⟩
  have hbracket : ∀ o ∈ origins, ']' ∉ (heading o.1 o.2).toList := by decide +kernel
  have hdiffer : ∀ o ∈ origins, ∀ o' ∈ origins, heading o.1 o.2 = heading o'.1 o'.2 → o = o' := by
    decide +kernel
  have hline (e : Event) : (ofEvent e).line.toList =
      (heading (ofEvent e).level (ofEvent e).target).toList ++
        ("] ".toList ++ (ofEvent e).message.toList) := by
    rw [← List.append_assoc, ← String.toList_append, ← String.toList_append]
    rfl
  have hcut := congrArg String.toList h
  rw [hline, hline] at hcut
  have hmem := origin_mem_origins e
  have hmem' := origin_mem_origins e'
  obtain ⟨hheading, hmessage⟩ :=
    append_inj_of_mark ']' (by decide) (hbracket _ hmem) (hbracket _ hmem') hcut
  obtain ⟨hlevel, htarget⟩ :=
    Prod.mk.inj (hdiffer _ hmem _ hmem' (String.toList_inj.1 hheading))
  exact (LogRecord.mk.injEq ..).mpr ⟨hlevel, htarget, String.toList_inj.1 hmessage⟩

end LogRecord

end CallDescriptor
