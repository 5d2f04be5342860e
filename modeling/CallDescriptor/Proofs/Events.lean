import CallDescriptor.Proofs.Log.Lines
import CallDescriptor.Proofs.Options
import CallDescriptor.Proofs.Representation
/-!
# What the events of decoding tell

Each stage of decoding reports for itself and a later one may still
fail, so it takes the whole run to say what a list of events means.
`Told` says it by the outcome alone: how far the fields could be read,
what the configuration holds and which of its counts are wrong.
`decodeTraced_events_iff_told` is the statement that the events are that
list and no other. What concerns slots is told of an accepted
configuration only, since nothing can fail any more once it is told.
-/

namespace CallDescriptor

/-! ## What there is to tell -/

/-- A declared reference count that is wrong, where that is no error. -/
def referenceCountEvents (validation : Validation) (declared params : Nat) : List Event :=
  if declared ≠ params ∧ validation ≠ .full then [.referenceCount declared params] else []

/-- Slots that are missing or left over, unless nothing needs a slot. -/
def slotCountEvents (slots params : Nat) : List Event :=
  if params ≠ 0 ∧ slots ≠ params then [.slotCount slots params] else []

/-- One event for each param that has a slot, lowest position first. -/
def pairedEvents (params : List Param) : List Event :=
  params.reverse.filterMap fun p => p.slot.map (.paired p.position)

/-- How many slot bytes a trailer holds, none if it cannot be read. -/
def slotTotal (padding : Padding) (trailer : List Char) : Nat :=
  match slotBytes padding trailer with
  | .ok slots => slots.length
  | .error _ => 0

/-- The events that `text` is to be decoded with. -/
inductive Told (options : Options) (text : String) : List Event → Prop
  /-- A text that is no descriptor is passed over in silence. -/
  | notDescriptor {e : DecodeError} (h : Descriptor.ofString text = .error e) :
      Told options text []
  /-- Of a descriptor with a bad digit in its number fields the call type is told. -/
  | notReadable {d : Descriptor} (h : Descriptor.ofString text = .ok d)
      (hbad : ¬ ∀ c ∈ Text.span text.toList 4 22, Text.isHexDigit c = true) :
      Told options text [.callType d.callTypeDigit (.ofDigit d.callTypeDigit)]
  /-- Of one that is refused further on the number fields are told. -/
  | refused {d : Descriptor} {e : DecodeError} (h : Descriptor.ofString text = .ok d)
      (hdigits : ∀ c ∈ Text.span text.toList 4 22, Text.isHexDigit c = true)
      (herr : decode options text = .error e) :
      Told options text
        (.callType d.callTypeDigit (.ofDigit d.callTypeDigit) ::
          .bitmap (Reading.bitmap text.toList)
            ((setBits (Reading.bitmap text.toList)).map Nat.toUInt8) ::
          referenceCountEvents options.validation (Reading.declared text.toList)
            (Reading.referenced text.toList))
  /-- Of one that is accepted the whole configuration is told. -/
  | accepted {d : Descriptor} {c : CallConfig} (h : Descriptor.ofString text = .ok d)
      (hok : decode options text = .ok c) :
      Told options text
        (.callType d.callTypeDigit c.callType :: .bitmap c.bitmap c.positions ::
          (referenceCountEvents options.validation c.referenceCount.toNat c.params.length ++
            (slotCountEvents (slotTotal options.padding (Text.span text.toList 22 66))
              c.params.length ++ pairedEvents c.params)))

/-! ## A step and the rest -/

namespace Traced

variable {α β : Type}

theorem lift_ok_bind (a : α) (f : α → Traced β) :
    ((liftM (Except.ok a : Except DecodeError α) : Traced α) >>= f) = f a := rfl

theorem lift_error_bind (e : DecodeError) (f : α → Traced β) :
    ((liftM (Except.error e : Except DecodeError α) : Traced α) >>= f) = fail e := rfl

theorem events_report_bind (es : List Event) (f : Unit → Traced β) :
    (report es >>= f).events = es ++ (f ()).events := rfl

variable {x : Traced α} {f : α → Traced β}

/-- **A success is a success of both parts**, and the events are those of
both. -/
theorem of_outcome_bind_eq_ok {b : β} (h : (x >>= f).outcome = .ok b) :
    ∃ a, x.outcome = .ok a ∧ (f a).outcome = .ok b ∧
      (x >>= f).events = x.events ++ (f a).events := by
  rw [outcome_bind] at h
  cases hx : x.outcome with
  | error e =>
    rw [hx] at h
    exact nomatch h
  | ok a =>
    rw [hx] at h
    exact ⟨a, rfl, h, events_bind_of_ok hx f⟩

/-- **A failure is one of the first part or, after its success, of the
second.** -/
theorem of_outcome_bind_eq_error {e : DecodeError} (h : (x >>= f).outcome = .error e) :
    (x.outcome = .error e ∧ (x >>= f).events = x.events) ∨
      ∃ a, x.outcome = .ok a ∧ (f a).outcome = .error e ∧
        (x >>= f).events = x.events ++ (f a).events := by
  rw [outcome_bind] at h
  cases hx : x.outcome with
  | error e' =>
    rw [hx] at h
    obtain rfl : e' = e := Except.error.inj h
    exact .inl ⟨rfl, events_bind_of_error hx f⟩
  | ok a =>
    rw [hx] at h
    exact .inr ⟨a, rfl, h, events_bind_of_ok hx f⟩

end Traced

/-! ## The stages -/

theorem events_checkReferenceCount (validation : Validation) (declared params : Nat) :
    (checkReferenceCount validation declared params).events =
      referenceCountEvents validation declared params := by
  unfold checkReferenceCount referenceCountEvents
  by_cases hcount : declared = params
  · rw [if_pos hcount, if_neg fun h => h.1 hcount, Traced.events_pure]
  · rw [if_neg hcount]
    cases validation with
    | permissive => exact (if_pos ⟨hcount, by decide⟩).symm
    | slots => exact (if_pos ⟨hcount, by decide⟩).symm
    | full => exact (if_neg fun h => h.2 rfl).symm

/-- A count of slots that is refused is not told, and one that is let pass is. -/
theorem events_checkSlotCount (validation : Validation) {slots params : Nat} (hsome : params ≠ 0) :
    (checkSlotCount validation slots params).events =
      match (checkSlotCount validation slots params).outcome with
      | .ok () => slotCountEvents slots params
      | .error _ => [] := by
  unfold checkSlotCount slotCountEvents
  by_cases hcount : slots = params
  · rw [if_pos hcount, if_neg fun h => h.2 hcount]
    rfl
  · rw [if_neg hcount, if_pos (And.intro hsome hcount)]
    by_cases hchecks : validation.checksSlots = true
    · rw [if_pos hchecks]
      rfl
    · rw [if_neg hchecks]
      rfl

/-- **Pairs are told as they end up.** What has a slot in the end was
paired with it, if nothing had one before. -/
theorem pairedEvents_pairFromRight {params : List Param} (hfresh : ∀ p ∈ params, p.slot = none)
    (slots : List UInt8) : pairedEvents (pairFromRight params slots) = pairEvents params slots := by
  have hpaired (ps : List Param) (ss : List UInt8) :
      (List.zipWith Param.withSlot ps ss).filterMap (fun p => p.slot.map (.paired p.position)) =
        List.zipWith (fun p s => Event.paired p.position s) ps ss := by
    induction ps generalizing ss with
    | nil => rfl
    | cons p ps ih =>
      cases ss with
      | nil => rfl
      | cons s ss => simp [ih]
  have hrest : (params.reverse.drop slots.reverse.length).filterMap
      (fun p => p.slot.map (Event.paired p.position)) = [] := by
    rw [List.filterMap_eq_nil_iff]
    intro p hp
    rw [hfresh p (List.mem_reverse.1 (List.mem_of_mem_drop hp)), Option.map_none]
  rw [pairedEvents, pairFromRight, List.reverse_reverse, pair_eq, List.filterMap_append, hpaired,
    hrest, List.append_nil, pairEvents]

variable {options : Options} {trailer : List Char} {params : List Param}

/-- Nothing is told of slots that are refused. -/
theorem events_assignSlots_of_error {e : DecodeError}
    (h : (assignSlots options trailer params).outcome = .error e) :
    (assignSlots options trailer params).events = [] := by
  unfold assignSlots at h ⊢
  by_cases hnil : params = []
  · rw [if_pos hnil] at h
    exact nomatch h
  · have hsome : params.length ≠ 0 := mt List.length_eq_zero_iff.1 hnil
    rw [if_neg hnil] at h ⊢
    obtain ⟨-, hevents⟩ | ⟨slots, -, h, hevents⟩ := Traced.of_outcome_bind_eq_error h
    · exact hevents
    · obtain ⟨hcount, hevents'⟩ | ⟨_, -, h, -⟩ := Traced.of_outcome_bind_eq_error h
      · rw [hevents, hevents', events_checkSlotCount _ hsome, hcount]
        rfl
      · exact nomatch h

/-- **What is told of slots that are assigned**: first their number, if it
is wrong, and then each pair. -/
theorem events_assignSlots_of_ok {assigned : List Param} (hfresh : ∀ p ∈ params, p.slot = none)
    (h : (assignSlots options trailer params).outcome = .ok assigned) :
    (assignSlots options trailer params).events =
      slotCountEvents (slotTotal options.padding trailer) params.length ++
        pairedEvents assigned := by
  unfold assignSlots at h ⊢
  by_cases hnil : params = []
  · rw [if_pos hnil] at h ⊢
    cases h
    subst hnil
    have hnone : slotCountEvents (slotTotal options.padding trailer) 0 = [] :=
      if_neg fun h => h.1 rfl
    exact (congrArg (· ++ []) hnone).symm
  · have hsome : params.length ≠ 0 := mt List.length_eq_zero_iff.1 hnil
    rw [if_neg hnil] at h ⊢
    obtain ⟨slots, hslots, h, hevents⟩ := Traced.of_outcome_bind_eq_ok h
    obtain ⟨_, hcount, h, hevents'⟩ := Traced.of_outcome_bind_eq_ok h
    have htotal : slotTotal options.padding trailer = slots.length := by
      rw [slotTotal, show slotBytes options.padding trailer = .ok slots from hslots]
    have hassigned : assigned = pairFromRight params slots := (Except.ok.inj h).symm
    rw [hevents, hevents', events_checkSlotCount _ hsome, hcount, hassigned, htotal,
      pairedEvents_pairFromRight hfresh, Traced.events_report_bind, Traced.events_pure,
      List.append_nil]
    rfl

/-! ## Behind the descriptor -/

namespace Descriptor

variable {options : Options} {text : String} {d : Descriptor}

/-- A bad digit in a number field ends decoding at once. -/
theorem events_of_not_readable (h : ofString text = .ok d)
    (hbad : ¬ ∀ c ∈ Text.span d.text.toList 4 22, Text.isHexDigit c = true) :
    (decodeTraced options text).events =
      [.callType d.callTypeDigit (.ofDigit d.callTypeDigit)] := by
  have hsplit : Text.span d.text.toList 4 22 =
      Text.span d.text.toList 4 6 ++ Text.span d.text.toList 6 22 :=
    (Text.span_append (by omega) (by omega)).symm
  rw [hsplit, List.forall_mem_append] at hbad
  unfold decodeTraced
  rw [h, Traced.lift_ok_bind, Traced.events_report_bind, d.referenceCount_eq, d.bitmap_eq]
  rcases blameFirst_span_cases Text.isHexDigit d.text.toList 4 6
    (Except.ok (UInt8.ofNat (Reading.declared d.text.toList))) with ⟨i, c, -, heq⟩ | ⟨hcount, heq⟩
  · rw [heq, Traced.lift_error_bind]
    rfl
  · rcases blameFirst_span_cases Text.isHexDigit d.text.toList 6 22
      (Except.ok (Reading.bitmap d.text.toList)) with ⟨i, c, -, heq'⟩ | ⟨hbitmap, -⟩
    · rw [heq, heq', Traced.lift_ok_bind, Traced.lift_error_bind]
      rfl
    · exact absurd ⟨hcount, hbitmap⟩ hbad

/-- What is left to do behind the number fields. -/
def checkedTraced (options : Options) (d : Descriptor) : Traced CallConfig := do
  let params := Param.ofBitmap (Reading.bitmap d.text.toList)
  checkReferenceCount options.validation (Reading.declared d.text.toList) params.length
  let params ← assignSlots options d.trailer params
  return {
    callType := .ofDigit d.callTypeDigit
    referenceCount := UInt8.ofNat (Reading.declared d.text.toList)
    bitmap := Reading.bitmap d.text.toList
    params := params }

/-- The number fields are told before they are checked. -/
theorem decodeTraced_of_readable (options : Options) (h : ofString text = .ok d)
    (hdigits : ∀ c ∈ Text.span d.text.toList 4 22, Text.isHexDigit c = true) :
    decodeTraced options text =
      ⟨.callType d.callTypeDigit (.ofDigit d.callTypeDigit) ::
        .bitmap (Reading.bitmap d.text.toList)
          ((Param.ofBitmap (Reading.bitmap d.text.toList)).map Param.position) ::
        (checkedTraced options d).events, (checkedTraced options d).outcome⟩ := by
  have hcount : ∀ c ∈ Text.span d.text.toList 4 6, Text.isHexDigit c = true :=
    fun c hc => hdigits c (Text.mem_span_mono (by omega) (by omega) hc)
  have hbitmap : ∀ c ∈ Text.span d.text.toList 6 22, Text.isHexDigit c = true :=
    fun c hc => hdigits c (Text.mem_span_mono (by omega) (by omega) hc)
  have htoNat : (UInt8.ofNat (Reading.declared d.text.toList)).toNat =
      Reading.declared d.text.toList :=
    UInt8.toNat_ofNat_of_lt' (Reading.declared_lt d.length_eq hcount)
  unfold decodeTraced checkedTraced
  rw [h, Traced.lift_ok_bind, d.referenceCount_eq, d.bitmap_eq, blameFirst_of_forall hcount,
    blameFirst_of_forall hbitmap]
  simp only [Traced.lift_ok_bind, htoNat]
  rfl

/-- **The outcome decides what is told behind the number fields.** -/
theorem events_checkedTraced (options : Options) (d : Descriptor) :
    (checkedTraced options d).events =
      referenceCountEvents options.validation (Reading.declared d.text.toList)
          (Reading.referenced d.text.toList) ++
        match (checkedTraced options d).outcome with
        | .error _ => []
        | .ok c => slotCountEvents (slotTotal options.padding d.trailer)
            (Reading.referenced d.text.toList) ++ pairedEvents c.params := by
  have hlength : (Param.ofBitmap (Reading.bitmap d.text.toList)).length =
      Reading.referenced d.text.toList := Param.length_ofBitmap _
  have hcheck := events_checkReferenceCount options.validation (Reading.declared d.text.toList)
    (Param.ofBitmap (Reading.bitmap d.text.toList)).length
  rw [hlength] at hcheck
  cases houtcome : (checkedTraced options d).outcome with
  | error e =>
    unfold checkedTraced at houtcome ⊢
    obtain ⟨-, hevents⟩ | ⟨_, -, houtcome, hevents⟩ := Traced.of_outcome_bind_eq_error houtcome
    · rw [hevents, hlength, hcheck]
      exact (List.append_nil _).symm
    · obtain ⟨hassign, hevents'⟩ | ⟨_, -, houtcome, -⟩ :=
        Traced.of_outcome_bind_eq_error houtcome
      · rw [hevents, hevents', hlength, hcheck, events_assignSlots_of_error hassign]
      · exact nomatch houtcome
  | ok c =>
    unfold checkedTraced at houtcome ⊢
    obtain ⟨_, -, houtcome, hevents⟩ := Traced.of_outcome_bind_eq_ok houtcome
    obtain ⟨params, hassign, houtcome, hevents'⟩ := Traced.of_outcome_bind_eq_ok houtcome
    obtain rfl := Except.ok.inj houtcome
    rw [hevents, hevents', hlength, hcheck,
      events_assignSlots_of_ok (fun p => Param.slot_of_mem_ofBitmap) hassign, hlength,
      Traced.events_pure, List.append_nil]

end Descriptor

/-! ## All of decoding -/

variable {text : String}

/-- **Whatever is told is what is reported.** -/
theorem Told.events_eq {es : List Event} (h : Told options text es) :
    (decodeTraced options text).events = es := by
  cases h with
  | notDescriptor h =>
    unfold decodeTraced
    rw [h, Traced.lift_error_bind, Traced.events_fail]
  | notReadable h hbad =>
    obtain rfl := Descriptor.text_of_ofString h
    exact Descriptor.events_of_not_readable h hbad
  | @refused d e h hdigits herr =>
    obtain rfl := Descriptor.text_of_ofString h
    have heq := Descriptor.decodeTraced_of_readable options h hdigits
    have houtcome : (Descriptor.checkedTraced options d).outcome = .error e := by
      rw [← herr, decode, heq]
    have hpositions : (Param.ofBitmap (Reading.bitmap d.text.toList)).map Param.position =
        (setBits (Reading.bitmap d.text.toList)).map Nat.toUInt8 := by
      rw [Param.ofBitmap, List.map_map]
      rfl
    rw [heq, Descriptor.events_checkedTraced, houtcome, List.append_nil, hpositions]
  | @accepted d c h hok =>
    obtain rfl := Descriptor.text_of_ofString h
    obtain ⟨hacc, hc⟩ := decode_eq_ok_iff.1 hok
    have heq := Descriptor.decodeTraced_of_readable options h hacc.digits
    have houtcome : (Descriptor.checkedTraced options d).outcome = .ok c := by
      rw [← hok, decode, heq]
    have hcallType : CallType.ofDigit d.callTypeDigit = c.callType := by
      rw [hc, d.callTypeDigit_eq, Reading.config]
    have hbitmap : Reading.bitmap d.text.toList = c.bitmap := by rw [hc, Reading.config]
    have hpositions : (Param.ofBitmap (Reading.bitmap d.text.toList)).map Param.position =
        c.positions := by rw [hc, Reading.positions_config]
    have hdeclared : Reading.declared d.text.toList = c.referenceCount.toNat := by
      rw [hc, Reading.toNat_referenceCount_config hacc.toReadable]
    have hreferenced : Reading.referenced d.text.toList = c.params.length := by
      rw [hc, Reading.length_params_config]
    have htrailer : d.trailer = Text.span d.text.toList 22 66 := rfl
    rw [heq, Descriptor.events_checkedTraced, houtcome, hcallType, hpositions, hbitmap, hdeclared,
      hreferenced, htrailer]

/-- There is something to tell of every text, if only nothing. -/
theorem told_decodeTraced (options : Options) (text : String) :
    Told options text (decodeTraced options text).events := by
  suffices h : ∃ es, Told options text es by
    obtain ⟨es, h⟩ := h
    rw [h.events_eq]
    exact h
  cases h : Descriptor.ofString text with
  | error e => exact ⟨_, .notDescriptor h⟩
  | ok d =>
    by_cases hdigits : ∀ c ∈ Text.span text.toList 4 22, Text.isHexDigit c = true
    · cases houtcome : decode options text with
      | error e => exact ⟨_, .refused h hdigits houtcome⟩
      | ok c => exact ⟨_, .accepted h houtcome⟩
    · exact ⟨_, .notReadable h hdigits⟩

/-- The level at which an event is logged. -/
def Event.level : Event → Level
  | .callType .. | .bitmap .. | .referenceCount .. => .debug
  | .slotCount .. => .warn
  | .paired .. => .trace

theorem LogRecord.level_ofEvent (e : Event) : (LogRecord.ofEvent e).level = e.level := by
  cases e <;> rfl

theorem level_of_mem_referenceCountEvents {validation : Validation} {declared params : Nat}
    {e : Event} (h : e ∈ referenceCountEvents validation declared params) : e.level = .debug := by
  unfold referenceCountEvents at h
  split at h
  · obtain rfl := List.mem_singleton.1 h
    rfl
  · exact absurd h List.not_mem_nil

/-- A text that is refused is told of at the level of debugging only. -/
theorem Told.level_of_refused {es : List Event} (h : Told options text es) {err : DecodeError}
    (herr : decode options text = .error err) : ∀ e ∈ es, e.level = .debug := by
  intro e he
  cases h with
  | notDescriptor => exact absurd he List.not_mem_nil
  | notReadable =>
    obtain rfl := List.mem_singleton.1 he
    rfl
  | refused =>
    obtain rfl | he := List.mem_cons.1 he
    · rfl
    · obtain rfl | he := List.mem_cons.1 he
      · rfl
      · exact level_of_mem_referenceCountEvents he
  | accepted _ hok =>
    rw [hok] at herr
    exact nomatch herr

/-- **The events tell exactly what decoding did.** They are the list that
`Told` gives and no other, each is logged at its level in a line that tells
it from every other, and pairs are named from the lowest position up. So a
text that is refused is neither warned of nor traced, and an accepted
configuration with too few or too many slot bytes is always warned of. -/
theorem decodeTraced_events_iff_told (options : Options) (text : String) :
    (∀ es, (decodeTraced options text).events = es ↔ Told options text es) ∧
      (∀ e, (LogRecord.ofEvent e).level = e.level) ∧
      (∀ e e', (LogRecord.ofEvent e).line = (LogRecord.ofEvent e').line ↔ e = e') ∧
      (∀ c, decode options text = .ok c →
        (c.params.reverse.map fun p => p.position.toNat).Pairwise (· < ·)) ∧
      (∀ err, decode options text = .error err →
        ∀ e ∈ (decodeTraced options text).events, (LogRecord.ofEvent e).level = .debug) ∧
      ∀ c slots, decode options text = .ok c → c.params ≠ [] →
        slotBytes options.padding (Text.span text.toList 22 66) = .ok slots →
        slots.length ≠ c.params.length →
        ∃ e ∈ (decodeTraced options text).events, (LogRecord.ofEvent e).level = .warn ∧
          e = .slotCount slots.length c.params.length := by
  have htold := told_decodeTraced options text
  refine ⟨fun es => ⟨fun h => h ▸ htold, Told.events_eq⟩, LogRecord.level_ofEvent,
    fun e e' => LogRecord.line_ofEvent_inj, fun c hok => ?_, fun err herr e he => ?_,
    fun c slots hok hsome hslots hcount => ?_⟩
  · obtain ⟨-, hc⟩ := decode_eq_ok_iff.1 hok
    have hparams : c.params = pairFromRight (Param.ofBitmap c.bitmap)
        (Reading.slots text.toList options.padding) := by
      rw [hc]
      rfl
    have hpositions : c.params.map (fun p => p.position.toNat) = setBits c.bitmap := by
      rw [← CallConfig.map_toNat_positions hparams, CallConfig.positions, List.map_map]
      rfl
    rw [List.map_reverse, List.pairwise_reverse, hpositions]
    exact pairwise_setBits c.bitmap
  · rw [LogRecord.level_ofEvent]
    exact htold.level_of_refused herr e he
  · refine ⟨_, ?_, rfl, rfl⟩
    obtain ⟨d, hd⟩ : ∃ d, Descriptor.ofString text = .ok d := by
      cases hd : Descriptor.ofString text with
      | ok d => exact ⟨d, rfl⟩
      | error e =>
        rw [decode, decodeTraced, hd, Traced.lift_error_bind] at hok
        cases hok
    have htotal : slotTotal options.padding (Text.span text.toList 22 66) = slots.length := by
      rw [slotTotal, hslots]
    have hwarn : slotCountEvents slots.length c.params.length =
        [.slotCount slots.length c.params.length] :=
      if_pos ⟨mt List.length_eq_zero_iff.1 hsome, hcount⟩
    rw [(Told.accepted hd hok).events_eq, htotal, hwarn]
    simp

/-- Two params and one slot. -/
example : (decodeTraced {}
    "0x3202000000000000000305ffffffffffffffffffffffffffffffffffffffffff").events.map
      (fun e => (LogRecord.ofEvent e).line) =
    ["[DEBUG taskcfg_core::call_type] call type digit '2' -> static call",
      "[DEBUG taskcfg_core::params] bitmap 0000000000000003 -> positions [1, 0]",
      "[WARN  taskcfg_core::slots] trailer holds 1 stack slots for 2 referenced params, " ++
        "pairing stops early",
      "[TRACE taskcfg_core::slots] params[0] <- local stack[5]"] := by
  decide +kernel

end CallDescriptor
