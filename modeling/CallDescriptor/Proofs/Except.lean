import Mathlib.Data.List.Basic
/-!
# Work that stops at the first failure

Parts in a row succeed if each does, and a traversal fails at the first element
that does.
-/

namespace CallDescriptor

/-- Of two parts in a row the first succeeds if both do. -/
theorem exists_of_bind_eq_ok {ε α β : Type} {x : Except ε α} {f : α → Except ε β} {b : β}
    (h : x >>= f = .ok b) : ∃ a, x = .ok a ∧ f a = .ok b := by
  cases x with
  | error e => exact nomatch h
  | ok a => exact ⟨a, rfl, h⟩

section Traversals

variable {ε γ : Type} {f : γ → Except ε Unit} {xs : List γ}

theorem forM_cons_eq (x : γ) (xs : List γ) :
    (x :: xs).forM f = (f x).bind fun _ => xs.forM f :=
  rfl

theorem forM_eq_ok_iff : xs.forM f = .ok () ↔ ∀ x ∈ xs, f x = .ok () := by
  induction xs with
  | nil => exact ⟨nofun, fun _ => rfl⟩
  | cons x xs ih =>
    rw [forM_cons_eq, List.forall_mem_cons, ← ih]
    cases f x with
    | error e => exact ⟨nofun, fun h => nomatch h.1⟩
    | ok u => exact ⟨fun h => ⟨rfl, h⟩, fun h => h.2⟩

/-- **A traversal fails at the first element that does.** -/
theorem exists_of_forM_eq_error {e : ε} (h : xs.forM f = .error e) :
    ∃ before x after, xs = before ++ x :: after ∧ (∀ y ∈ before, f y = .ok ()) ∧
      f x = .error e := by
  induction xs with
  | nil => exact nomatch h
  | cons x xs ih =>
    rw [forM_cons_eq] at h
    cases hx : f x with
    | error e' =>
      rw [hx] at h
      exact ⟨[], x, xs, rfl, nofun, hx.trans h⟩
    | ok u =>
      rw [hx] at h
      obtain ⟨before, y, after, rfl, hbefore, hy⟩ := ih h
      exact ⟨x :: before, y, after, rfl, List.forall_mem_cons.2 ⟨hx, hbefore⟩, hy⟩

/-- And an error is one of such an element. -/
theorem forM_eq_error_iff {e : ε} : xs.forM f = .error e ↔
    ∃ before x after, xs = before ++ x :: after ∧ (∀ y ∈ before, f y = .ok ()) ∧
      f x = .error e := by
  refine ⟨exists_of_forM_eq_error, ?_⟩
  rintro ⟨before, x, after, rfl, hbefore, hx⟩
  induction before with
  | nil =>
    rw [List.nil_append, forM_cons_eq, hx]
    rfl
  | cons y before ih =>
    rw [List.forall_mem_cons] at hbefore
    rw [List.cons_append, forM_cons_eq, hbefore.1]
    exact ih hbefore.2

theorem forM_singleton (x : γ) : [x].forM f = f x := by
  rw [forM_cons_eq]
  cases f x with
  | error e => rfl
  | ok u => rfl

/-- Elements that succeed in any case can be left out. -/
theorem forM_filter {p : γ → Bool} (h : ∀ x ∈ xs, p x = false → f x = .ok ()) :
    (xs.filter p).forM f = xs.forM f := by
  induction xs with
  | nil => rfl
  | cons x xs ih =>
    rw [List.forall_mem_cons] at h
    rw [List.filter_cons, forM_cons_eq, ← ih h.2]
    cases hx : p x with
    | false =>
      rw [h.1 hx]
      rfl
    | true => rfl

/-- And elements can be replaced by others that fare as they do. -/
theorem forM_map {g : γ → γ} (h : ∀ x ∈ xs, f (g x) = f x) : (xs.map g).forM f = xs.forM f := by
  induction xs with
  | nil => rfl
  | cons x xs ih =>
    rw [List.forall_mem_cons] at h
    rw [List.map_cons, forM_cons_eq, forM_cons_eq, h.1, ih h.2]

end Traversals

end CallDescriptor
