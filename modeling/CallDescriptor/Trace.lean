import CallDescriptor.CallType
import CallDescriptor.DecodeError
/-!
# Decoding with a trace

Decoding reports what it finds on the way. An `Event` is one such report, and
a `Traced` result carries the events up to the end or up to the error, in the
order in which they arose: `Traced.bind` runs the second part only after a
success and appends its events.
-/

namespace CallDescriptor

/-- What decoding reports. -/
inductive Event where
  /-- The call-type digit was read. -/
  | callType (digit : Char) (callType : CallType)
  /-- The bitmap was expanded. -/
  | bitmap (bitmap : UInt64) (positions : List UInt8)
  /-- The declared reference count was found wrong and let pass. -/
  | referenceCount (declared referenced : Nat)
  /-- The number of slots was found wrong and let pass. -/
  | slotCount (slots params : Nat)
  /-- A param was paired with a slot. -/
  | paired (position slot : UInt8)
  deriving DecidableEq, Repr

/-- An outcome with the events that led to it. -/
structure Traced (α : Type) where
  events : List Event
  outcome : Except DecodeError α

namespace Traced

variable {α β : Type}

/-- Success without an event. -/
def pure (a : α) : Traced α := ⟨[], .ok a⟩

/-- `f` on the result of `x`, unless `x` failed. -/
def bind (x : Traced α) (f : α → Traced β) : Traced β :=
  match x.outcome with
  | .error e => ⟨x.events, .error e⟩
  | .ok a => ⟨x.events ++ (f a).events, (f a).outcome⟩

instance : Monad Traced where
  pure := Traced.pure
  bind := Traced.bind

/-- An outcome without an event. -/
def ofExcept (outcome : Except DecodeError α) : Traced α := ⟨[], outcome⟩

instance : MonadLift (Except DecodeError) Traced := ⟨ofExcept⟩

/-- Reports `events`. -/
def report (events : List Event) : Traced Unit := ⟨events, .ok ()⟩

/-- Fails without an event. -/
def fail (e : DecodeError) : Traced α := ⟨[], .error e⟩

/-! ## What a step adds -/

@[simp] theorem events_pure (a : α) : (Pure.pure a : Traced α).events = [] := rfl

@[simp] theorem outcome_pure (a : α) : (Pure.pure a : Traced α).outcome = .ok a := rfl

@[simp] theorem events_fail (e : DecodeError) : (fail e : Traced α).events = [] := rfl

@[simp] theorem outcome_fail (e : DecodeError) : (fail e : Traced α).outcome = .error e := rfl

@[simp] theorem events_report (events : List Event) : (report events).events = events := rfl

@[simp] theorem outcome_report (events : List Event) : (report events).outcome = .ok () := rfl

@[simp] theorem events_ofExcept (x : Except DecodeError α) : (ofExcept x).events = [] := rfl

@[simp] theorem outcome_ofExcept (x : Except DecodeError α) : (ofExcept x).outcome = x := rfl

/-- **The outcome of two parts** is the outcome of their outcomes: events
change nothing. -/
theorem outcome_bind (x : Traced α) (f : α → Traced β) :
    (x >>= f).outcome = x.outcome >>= fun a => (f a).outcome := by
  show (Traced.bind x f).outcome = _
  unfold Traced.bind
  split <;> simp_all [Bind.bind, Except.bind]

/-- After a success the events of the second part follow. -/
theorem events_bind_of_ok {x : Traced α} {a : α} (h : x.outcome = .ok a) (f : α → Traced β) :
    (x >>= f).events = x.events ++ (f a).events := by
  show (Traced.bind x f).events = _
  unfold Traced.bind
  rw [h]

/-- After an error there are no further events. -/
theorem events_bind_of_error {x : Traced α} {e : DecodeError} (h : x.outcome = .error e)
    (f : α → Traced β) : (x >>= f).events = x.events := by
  show (Traced.bind x f).events = _
  unfold Traced.bind
  rw [h]

end Traced

end CallDescriptor
