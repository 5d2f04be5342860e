import Mathlib.Data.List.Pairwise
import Mathlib.Data.List.Perm.Basic
import CallDescriptor.Proofs.CommandLine.Raises
import CallDescriptor.Proofs.Named
/-!
# What a command line says

A command line says a descriptor, some options with their values and a
number of raises, each in an item of its own. `Scan.put` is what an item does
to what has been read, without a look at how it is written. Items that fill
different fields may be put in any order (`put_comm`), so what a request asks
for is put alike in every order of its items (`foldl_put_of_perm`).
-/

namespace CallDescriptor

namespace CommandLine

/-! ## Items -/

/-- One thing that a command line says. -/
inductive Item where
  | descriptor (text : String)
  | value (option : ValueOption) (text : String)
  /-- The log level is to be raised. -/
  | raise
  deriving DecidableEq, Repr

/-- What at most one item can fill. -/
inductive Field where
  | descriptor
  | value (option : ValueOption)
  deriving DecidableEq, Repr

/-- Neither a hyphen nor an equals sign. -/
def startsValue (c : Char) : Bool := c != '-' && c != '='

/-- A text that can stand behind an option in every way: it is not empty, and
its first character is not taken for something else. -/
def Bare (text : String) : Prop := text.toList.head?.any startsValue = true

instance : DecidablePred Bare := fun text =>
  inferInstanceAs (Decidable (text.toList.head?.any startsValue = true))

namespace Item

/-- The field that an item fills. A raise fills none. -/
def field? : Item → Option Field
  | descriptor _ => some .descriptor
  | value option _ => some (.value option)
  | raise => none

/-- Two items do not fill one field. -/
def Apart (i j : Item) : Prop := i.field? = none ∨ i.field? ≠ j.field?

instance : Std.Symm Apart where
  symm i j h := by
    by_cases hj : j.field? = none
    · exact .inl hj
    · rcases h with h | h
      · exact .inr (h ▸ hj)
      · exact .inr h.symm

/-- An item is understood. -/
def Fits : Item → Prop
  | descriptor text => text.toList.head? ≠ some '-'
  | value .config text => Bare text
  | value .padding text => Bare text ∧ ∃ p : Padding, Named.ofNameAnyCase? text = some p
  | value .validation text => Bare text ∧ ∃ v : Validation, Named.ofNameAnyCase? text = some v
  | value .format text => Bare text ∧ ∃ f : ReportFormat, Named.ofName? text = some f
  | raise => True

theorem Fits.bare {option : ValueOption} {text : String} (h : (value option text).Fits) :
    Bare text := by
  cases option with
  | config => exact h
  | padding => exact h.1
  | validation => exact h.1
  | format => exact h.1

end Item

namespace Scan

variable {s : Scan} {i j : Item} {items : List Item} {f : Field}

/-- What has been read once an item has. -/
def put (s : Scan) : Item → Scan
  | .descriptor text => { s with descriptor := some text }
  | .value .config text => { s with config := some text }
  | .value .padding text => { s with padding := Named.ofNameAnyCase? text }
  | .value .validation text => { s with validation := Named.ofNameAnyCase? text }
  | .value .format text => { s with format := Named.ofName? text }
  | .raise => { s with verbose := min (s.verbose + 1) maxVerbose }

/-- Whether a field has been filled. -/
def filled (s : Scan) : Field → Bool
  | .descriptor => s.descriptor.isSome
  | .value .config => s.config.isSome
  | .value .padding => s.padding.isSome
  | .value .validation => s.validation.isSome
  | .value .format => s.format.isSome

/-- There is room for an item: its field has not been filled. -/
def Free (s : Scan) (i : Item) : Prop := ∀ f, i.field? = some f → s.filled f = false

@[simp] theorem pending_put (s : Scan) (i : Item) : (s.put i).pending = s.pending := by
  cases i with
  | value option text => cases option <;> rfl
  | _ => rfl

@[simp] theorem optionsEnded_put (s : Scan) (i : Item) :
    (s.put i).optionsEnded = s.optionsEnded := by
  cases i with
  | value option text => cases option <;> rfl
  | _ => rfl

/-- An item fills its own field only. -/
theorem filled_put (h : i.field? ≠ some f) : (s.put i).filled f = s.filled f := by
  unfold put filled
  split
  all_goals split
  all_goals first | rfl | exact absurd rfl h

theorem filled_foldl_put (h : ∀ i ∈ items, i.field? ≠ some f) :
    (items.foldl put s).filled f = s.filled f := by
  induction items generalizing s with
  | nil => rfl
  | cons i items ih =>
    rw [List.forall_mem_cons] at h
    rw [List.foldl_cons, ih h.2, filled_put h.1]

/-- **Items that are apart may be put in either order.** -/
theorem put_comm (s : Scan) (h : i.Apart j) : (s.put i).put j = (s.put j).put i := by
  rcases h with h | h
  · cases i with
    | raise =>
      cases j with
      | value option text => cases option <;> rfl
      | _ => rfl
    | _ => exact nomatch h
  · unfold put
    split
    all_goals split
    all_goals first | rfl | exact absurd rfl h

/-- **Items may be put in any order**, if any two of them are apart. -/
theorem foldl_put_of_perm {items' : List Item} (hperm : items.Perm items')
    (hapart : items.Pairwise Item.Apart) (s : Scan) :
    items.foldl put s = items'.foldl put s := by
  refine hperm.foldl_eq' (fun i hi j hj t => ?_) s
  by_cases heq : i = j
  · rw [heq]
  · exact put_comm t (hapart.forall hi hj heq)

/-- Raises are counted up to the greatest number that is. -/
theorem foldl_put_replicate (n : Nat) (h : s.verbose ≤ maxVerbose) :
    (List.replicate n Item.raise).foldl put s =
      { s with verbose := min (s.verbose + n) maxVerbose } := by
  induction n generalizing s with
  | zero => rw [Nat.add_zero, Nat.min_eq_left h]; rfl
  | succ n ih =>
    have hsum : min (min (s.verbose + 1) maxVerbose + n) maxVerbose =
        min (s.verbose + (n + 1)) maxVerbose := by omega
    rw [List.replicate_succ, List.foldl_cons, ih (Nat.min_le_right _ _), ← hsum]
    rfl

end Scan

/-! ## Requests -/

/-- A value of a vocabulary under its name, in any case of ASCII letters. -/
structure AnyCase (α : Type) [Named α] where
  value : α
  text : String
  sameName : Named.lowerAscii text = Named.lowerAscii (Named.name value)

/-- It is found under any such name. -/
theorem AnyCase.ofNameAnyCase?_text {α : Type} [Named α] [Named.Lawful α] (x : AnyCase α) :
    Named.ofNameAnyCase? x.text = some x.value :=
  Named.ofNameAnyCase?_eq_some_iff.2 (x.sameName.trans (Named.lowerAscii_name x.value))

/-- A name begins with a letter, which is no mark. -/
theorem bare_of_ofNameAnyCase? {α : Type} [Named α] [Named.Lawful α] {v : α} {text : String}
    (h : Named.ofNameAnyCase? text = some v) : Bare text := by
  obtain ⟨c, cs, hcs⟩ := List.exists_cons_of_ne_nil (Named.toList_ne_nil h)
  have hletter := Named.isLetter_of_mem h (hcs ▸ List.mem_cons_self)
  have hmark : c ≠ '-' ∧ c ≠ '=' := by
    constructor
    · rintro rfl
      exact absurd hletter (by unfold Named.IsLetter; decide)
    · rintro rfl
      exact absurd hletter (by unfold Named.IsLetter; decide)
  unfold Bare
  rw [hcs, List.head?_cons, Option.any_some, startsValue, Bool.and_eq_true, bne_iff_ne, bne_iff_ne]
  exact hmark

/-- What a command line is to ask for. -/
structure Request where
  descriptor : String
  raises : Nat := 0
  config : Option String := none
  padding : Option (AnyCase Padding) := none
  validation : Option (AnyCase Validation) := none
  format : Option ReportFormat := none
  noOption : descriptor.toList.head? ≠ some '-'
  barePath : ∀ path ∈ config, Bare path

namespace Request

/-- The options of a request with their values, in one of their orders. -/
def values (r : Request) : List Item :=
  (r.config.toList.map fun path => .value .config path) ++
    (r.padding.toList.map fun p => .value .padding p.text) ++
    (r.validation.toList.map fun v => .value .validation v.text) ++
    r.format.toList.map fun f => .value .format (Named.name f)

/-- The items of a request, in one of their orders. -/
def items (r : Request) : List Item :=
  .descriptor r.descriptor :: (r.values ++ List.replicate r.raises .raise)

/-- What is asked for, once it has been read. -/
def arguments (r : Request) : Arguments where
  descriptor := r.descriptor
  config := r.config
  padding := r.padding.map AnyCase.value
  validation := r.validation.map AnyCase.value
  format := r.format
  verbose := min r.raises maxVerbose

/-- What has been read once all items have. -/
def scan (r : Request) : Scan where
  descriptor := some r.descriptor
  config := r.config
  padding := r.padding.map AnyCase.value
  validation := r.validation.map AnyCase.value
  format := r.format
  verbose := min r.raises maxVerbose

/-! ### A request and its items -/

variable (r : Request)

/-- The options fill their own fields, each with its value. -/
theorem foldl_put_values (text : String) :
    r.values.foldl Scan.put { descriptor := some text } = {
      descriptor := some text
      config := r.config
      padding := r.padding.map AnyCase.value
      validation := r.validation.map AnyCase.value
      format := r.format } := by
  obtain ⟨descriptor, raises, config, padding, validation, format, hnoOption, hbarePath⟩ := r
  cases config <;> cases padding <;> cases validation <;> cases format <;>
    simp [values, Scan.put, AnyCase.ofNameAnyCase?_text]

/-- **The items of a request say what is asked for.** -/
theorem foldl_put_items : r.items.foldl Scan.put {} = r.scan := by
  have hdescriptor : Scan.put {} (.descriptor r.descriptor) = { descriptor := some r.descriptor } :=
    rfl
  rw [items, List.foldl_cons, List.foldl_append, hdescriptor, foldl_put_values,
    Scan.foldl_put_replicate _ (Nat.zero_le _), Nat.zero_add]
  rfl

/-- No field is asked for twice. -/
theorem pairwise_items : r.items.Pairwise Item.Apart := by
  have hraise (i : Item) : i.Apart .raise := by
    by_cases hi : i.field? = none
    · exact .inl hi
    · exact .inr hi
  have hvalues : (Item.descriptor r.descriptor :: r.values).Pairwise Item.Apart := by
    obtain ⟨descriptor, raises, config, padding, validation, format, hnoOption, hbarePath⟩ := r
    cases config <;> cases padding <;> cases validation <;> cases format <;>
      simp [values, Item.Apart, Item.field?]
  rw [items, ← List.cons_append, List.pairwise_append]
  refine ⟨hvalues, List.pairwise_replicate.2 (.inr (hraise _)), fun i _ j hj => ?_⟩
  rw [List.eq_of_mem_replicate hj]
  exact hraise i

theorem fits_of_mem_items {i : Item} (h : i ∈ r.items) : i.Fits := by
  have hpadding : ∀ p ∈ r.padding, (Item.value .padding p.text).Fits := fun p _ =>
    ⟨bare_of_ofNameAnyCase? p.ofNameAnyCase?_text, p.value, p.ofNameAnyCase?_text⟩
  have hvalidation : ∀ v ∈ r.validation, (Item.value .validation v.text).Fits := fun v _ =>
    ⟨bare_of_ofNameAnyCase? v.ofNameAnyCase?_text, v.value, v.ofNameAnyCase?_text⟩
  have hformat : ∀ f ∈ r.format, (Item.value .format (Named.name f)).Fits := fun f _ =>
    ⟨bare_of_ofNameAnyCase? (Named.ofNameAnyCase?_of_ofName? (Named.ofName?_name f)), f,
      Named.ofName?_name f⟩
  simp only [items, values, List.mem_cons, List.mem_append, List.mem_map, Option.mem_toList,
    List.mem_replicate] at h
  rcases h with
    rfl | (((⟨path, hpath, rfl⟩ | ⟨p, hp, rfl⟩) | ⟨v, hv, rfl⟩) | ⟨f, hf, rfl⟩) | ⟨-, rfl⟩
  · exact r.noOption
  · exact r.barePath path hpath
  · exact hpadding p hp
  · exact hvalidation v hv
  · exact hformat f hf
  · trivial

end Request

end CommandLine

end CallDescriptor
