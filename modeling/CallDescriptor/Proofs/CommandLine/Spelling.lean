import Mathlib.Data.List.TakeWhile
import CallDescriptor.Proofs.CommandLine.Items
import CallDescriptor.Proofs.Stages
/-!
# How a command line is written

One item can be written in several ways: a value stands in the next argument,
behind an equals sign or, behind a letter, at once; raises are written out or
as letters, and letters may run together, also in front of an option with a
letter. A `Piece` is what stands together in one such way. Reading the pieces
puts their items (`reads_flatMap_args`), with the value of the last option
perhaps still pending, so neither the way of writing nor the order makes a
difference (`settings_independent_of_spelling`).
-/

namespace CallDescriptor

namespace CommandLine

/-! ## Pieces -/

/-- The name of an option behind two hyphens. -/
def ValueOption.longName : ValueOption → String
  | config => "config"
  | padding => "padding"
  | validation => "validation"
  | format => "format"

/-- An option that has a letter. -/
inductive Lettered where
  | config
  | format
  deriving DecidableEq, Repr

namespace Lettered

def option : Lettered → ValueOption
  | config => .config
  | format => .format

def letter : Lettered → String
  | config => "c"
  | format => "f"

end Lettered

/-- Where the value of an option stands. -/
inductive Joint where
  /-- In the next argument. -/
  | apart
  /-- Behind an equals sign. -/
  | equals
  deriving DecidableEq, Repr

/-- What stands together on a command line. -/
inductive Piece where
  | descriptor (text : String)
  /-- A raise, written out. -/
  | raise
  /-- A letter `v`, with `more` of them in front. -/
  | letters (more : Nat)
  /-- An option by its name. -/
  | named (option : ValueOption) (joint : Joint) (text : String)
  /-- An option by its letter, with letters `v` in front. -/
  | lettered (raises : Nat) (option : Lettered) (joint : Joint) (text : String)
  /-- The same with its value right behind the letter. -/
  | attached (raises : Nat) (option : Lettered) (text : String)
  deriving DecidableEq, Repr

namespace Piece

/-- Letters `v` and what follows them, behind one hyphen. -/
def bundle (raises : Nat) (rest : String) : String :=
  "-" ++ String.ofList (List.replicate raises 'v') ++ rest

/-- The arguments that make up a piece. -/
def args : Piece → List String
  | descriptor text => [text]
  | raise => ["--verbose"]
  | letters more => [bundle more "v"]
  | named option .apart text => ["--" ++ option.longName, text]
  | named option .equals text => ["--" ++ option.longName ++ "=" ++ text]
  | lettered raises option .apart text => [bundle raises option.letter, text]
  | lettered raises option .equals text => [bundle raises (option.letter ++ "=" ++ text)]
  | attached raises option text => [bundle raises (option.letter ++ text)]

/-- What a piece says, in order. -/
def items : Piece → List Item
  | descriptor text => [.descriptor text]
  | raise => [.raise]
  | letters more => List.replicate more .raise ++ [.raise]
  | named option _ text => [.value option text]
  | lettered raises option _ text => List.replicate raises .raise ++ [.value option.option text]
  | attached raises option text => List.replicate raises .raise ++ [.value option.option text]

end Piece

/-! ## Reading a piece -/

namespace Scan

variable {s t : Scan}

/-- `s` has read what `t` has, whose options all have their values. Options
have not ended. -/
structure Settles (s t : Scan) : Prop where
  settle_eq : s.settle = .ok t
  isOpen : s.optionsEnded = false

theorem pending_of_settle (h : s.settle = .ok t) : t.pending = none := by
  unfold settle at h
  split at h
  · next hnone =>
    obtain rfl := Except.ok.inj h
    exact hnone
  · exact nomatch h
  · cases assign_eq_ok_iff.1 h with
    | _ => rfl

theorem descriptor_of_settle (h : s.settle = .ok t) : t.descriptor = s.descriptor := by
  unfold settle at h
  split at h
  · obtain rfl := Except.ok.inj h
    rfl
  · exact nomatch h
  · cases assign_eq_ok_iff.1 h with
    | _ => rfl

/-- What has no value pending settles as it is. -/
theorem settles_self (hpending : s.pending = none) (hopen : s.optionsEnded = false) :
    s.Settles s := by
  refine ⟨?_, hopen⟩
  unfold settle
  rw [hpending]

namespace Settles

variable (h : s.Settles t)
include h

theorem settled : t.Settles t :=
  settles_self (pending_of_settle h.settle_eq)
    ((raised_settle h.settle_eq).optionsEnded.trans h.isOpen)

theorem put (i : Item) : (t.put i).Settles (t.put i) :=
  settles_self (by rw [pending_put]; exact pending_of_settle h.settle_eq)
    (by rw [optionsEnded_put]; exact h.settled.isOpen)

end Settles

/-- **An option takes a value that fits it** if it has none yet. -/
theorem assign_eq_put {option : ValueOption} {text : String}
    (hfits : (Item.value option text).Fits) (hfree : t.Free (.value option text)) :
    t.assign option text = .ok (t.put (.value option text)) := by
  have hnone := hfree _ rfl
  rw [assign_eq_ok_iff]
  cases option with
  | config =>
    refine .config (Option.isNone_iff_eq_none.1 (Option.isSome_eq_false_iff.1 hnone)) ?_
    rintro rfl
    exact absurd hfits.bare (by decide)
  | padding =>
    obtain ⟨-, p, hp⟩ := hfits
    rw [put, hp]
    exact .padding (Option.isNone_iff_eq_none.1 (Option.isSome_eq_false_iff.1 hnone)) hp
  | validation =>
    obtain ⟨-, v, hv⟩ := hfits
    rw [put, hv]
    exact .validation (Option.isNone_iff_eq_none.1 (Option.isSome_eq_false_iff.1 hnone)) hv
  | format =>
    obtain ⟨-, f, hf⟩ := hfits
    rw [put, hf]
    exact .format (Option.isNone_iff_eq_none.1 (Option.isSome_eq_false_iff.1 hnone)) hf

theorem flag_verbose (h : s.Settles t) : s.flag .verbose = .ok (t.put .raise) := by
  unfold flag
  rw [h.settle_eq]
  rfl

theorem attached_eq {option : ValueOption} {text : String} (h : s.Settles t)
    (hfits : (Item.value option text).Fits) (hfree : t.Free (.value option text)) :
    s.attached option text.toList = .ok (t.put (.value option text)) := by
  unfold attached
  rw [h.settle_eq, String.ofList_toList]
  exact assign_eq_put hfits hfree

/-! ### Which kind of argument it is -/

theorem step_plain {arg : String} (hopen : s.optionsEnded = false)
    (harg : arg.toList.head? ≠ some '-') : s.step arg = s.plain arg := by
  unfold step
  rw [hopen, if_neg Bool.false_ne_true]
  split
  · next heq => exact absurd (congrArg List.head? heq) harg
  · next heq => exact absurd (congrArg List.head? heq) harg
  · next heq => exact absurd (congrArg List.head? heq) harg
  · rfl

theorem step_long {arg : String} {text : List Char} (hopen : s.optionsEnded = false)
    (harg : arg.toList = '-' :: '-' :: text) (hne : text ≠ []) : s.step arg = s.long text := by
  obtain ⟨c, text, rfl⟩ := List.exists_cons_of_ne_nil hne
  unfold step
  rw [hopen, if_neg Bool.false_ne_true, harg]
  rfl

theorem step_short {arg : String} {letter : Char} {rest : List Char}
    (hopen : s.optionsEnded = false) (harg : arg.toList = '-' :: letter :: rest)
    (hletter : letter ≠ '-') : s.step arg = s.short (letter :: rest) := by
  unfold step
  rw [hopen, if_neg Bool.false_ne_true, harg]
  split
  · next heq => exact absurd (List.cons.inj (List.cons.inj heq).2).1 hletter
  · next heq => exact absurd (List.cons.inj (List.cons.inj heq).2).1 hletter
  · next heq =>
    obtain ⟨rfl, rfl⟩ := List.cons.inj (List.cons.inj heq).2
    rfl
  · next hnot => exact absurd rfl (hnot letter rest)

/-! ### Options by name -/

theorem longOption?_longName (option : ValueOption) :
    longOption? option.longName.toList = some option := by
  cases option <;> decide

theorem equals_not_mem_longName (option : ValueOption) :
    ∀ c ∈ option.longName.toList, (c != '=') = true :=
  List.all_eq_true.1 (by cases option <;> decide)

theorem long_longName (s : Scan) (option : ValueOption) :
    s.long option.longName.toList = s.await option := by
  have hname := equals_not_mem_longName option
  unfold long
  simp only [List.takeWhile_eq_self_iff.2 hname, List.dropWhile_eq_nil_iff.2 hname,
    longOption?_longName]

theorem long_equals (s : Scan) (option : ValueOption) (text : List Char) :
    s.long (option.longName.toList ++ '=' :: text) = s.attached option text := by
  have hname := equals_not_mem_longName option
  have htake : (option.longName.toList ++ '=' :: text).takeWhile (· != '=') =
      option.longName.toList := by
    rw [List.takeWhile_append_of_pos hname, List.takeWhile_cons_of_neg (by decide),
      List.append_nil]
  have hdrop : (option.longName.toList ++ '=' :: text).dropWhile (· != '=') = '=' :: text := by
    rw [List.dropWhile_append_of_pos hname, List.dropWhile_cons_of_neg (by decide)]
  unfold long
  simp only [htake, hdrop, longOption?_longName]

/-! ### Options by letter -/

theorem short_raise (h : s.Settles t) (rest : List Char) :
    s.short ('v' :: rest) = (t.put .raise).short rest := by
  have hflag : s.short ('v' :: rest) = (s.flag .verbose >>= fun s => s.short rest) := rfl
  rw [hflag, flag_verbose h]
  rfl

/-- **Letters in front are raises**, one by one. -/
theorem exists_short_replicate (h : s.Settles t) (raises : Nat) (rest : List Char) :
    ∃ s' : Scan, s'.Settles ((List.replicate raises Item.raise).foldl put t) ∧
      s.short (List.replicate raises 'v' ++ rest) = s'.short rest := by
  induction raises generalizing s t with
  | zero => exact ⟨s, h, rfl⟩
  | succ raises ih =>
    obtain ⟨s', hs', hshort⟩ := ih (h.put .raise)
    refine ⟨s', hs', ?_⟩
    rw [List.replicate_succ, List.cons_append, short_raise h, hshort]

theorem short_letter (s : Scan) (option : Lettered) :
    s.short option.letter.toList = s.await option.option := by
  cases option <;> rfl

theorem short_letter_equals (s : Scan) (option : Lettered) (text : List Char) :
    s.short (option.letter.toList ++ '=' :: text) = s.attached option.option text := by
  cases option <;> rfl

theorem short_letter_attached (s : Scan) (option : Lettered) {text : String} (h : Bare text) :
    s.short (option.letter.toList ++ text.toList) = s.attached option.option text.toList := by
  unfold Bare at h
  generalize text.toList = cs at h ⊢
  have hne : cs ≠ [] := by
    rintro rfl
    exact nomatch h
  have hequals : ∀ v, cs ≠ '=' :: v := by
    rintro v rfl
    exact absurd h Bool.false_ne_true
  cases option with
  | config =>
    show s.short ('c' :: cs) = s.attached .config cs
    rw [short]
    · rfl
    · exact hne
    · exact hequals
  | format =>
    show s.short ('f' :: cs) = s.attached .format cs
    rw [short]
    · rfl
    · exact hne
    · exact hequals

/-- A bundle of letters is read letter by letter, up to what follows the raises. -/
theorem exists_step_bundle (h : s.Settles t) (raises : Nat) (rest : String)
    (hrest : rest.toList.head?.any (· != '-') = true) :
    ∃ s' : Scan, s'.Settles ((List.replicate raises Item.raise).foldl put t) ∧
      s.step (Piece.bundle raises rest) = s'.short rest.toList := by
  obtain ⟨s', hs', hshort⟩ := exists_short_replicate h raises rest.toList
  refine ⟨s', hs', ?_⟩
  have hbundle : (Piece.bundle raises rest).toList =
      '-' :: (List.replicate raises 'v' ++ rest.toList) := by
    simp only [Piece.bundle, String.toList_append, String.toList_ofList]
    rfl
  have hfirst : ∃ letter letters, List.replicate raises 'v' ++ rest.toList = letter :: letters ∧
      letter ≠ '-' := by
    cases raises with
    | zero =>
      cases hcs : rest.toList with
      | nil =>
        rw [hcs] at hrest
        exact nomatch hrest
      | cons c cs =>
        rw [hcs] at hrest
        exact ⟨c, cs, rfl, bne_iff_ne.1 hrest⟩
    | succ raises => exact ⟨'v', _, rfl, by decide⟩
  obtain ⟨letter, letters, hletters, hne⟩ := hfirst
  rw [← hshort, hletters]
  exact step_short h.isOpen (hletters ▸ hbundle) hne

/-- **A value in the next argument** is pending behind it. -/
theorem exists_await_step {option : ValueOption} {text : String} (h : s.Settles t)
    (hfits : (Item.value option text).Fits) (hfree : t.Free (.value option text)) :
    ∃ s' : Scan, (s.await option >>= fun s => s.step text) = .ok s' ∧
      s'.Settles (t.put (.value option text)) := by
  have hopen := h.settled.isOpen
  have hnone := pending_of_settle h.settle_eq
  have htext : text.toList.head? ≠ some '-' := by
    have hbare := hfits.bare
    unfold Bare at hbare
    rintro heq
    rw [heq] at hbare
    exact absurd hbare (by decide)
  have hawait : s.await option = .ok { t with pending := some (option, none) } := by
    unfold await
    rw [h.settle_eq]
    rfl
  have hplain : ({ t with pending := some (option, none) } : Scan).plain text =
      .ok { t with pending := some (option, some text) } := by
    unfold plain
    simp only [hopen]
  refine ⟨{ t with pending := some (option, some text) }, ?_, ?_, hopen⟩
  · rw [hawait, ← hplain]
    exact step_plain hopen htext
  · rw [← assign_eq_put hfits hfree]
    show assign { t with pending := none } option text = _
    rw [← hnone]

theorem plain_descriptor {text : String} (h : s.Settles t) (hfree : t.Free (.descriptor text)) :
    s.plain text = .ok (t.put (.descriptor text)) := by
  have hnone : s.descriptor.isSome = false := by
    rw [← descriptor_of_settle h.settle_eq]
    exact hfree .descriptor rfl
  unfold plain
  split
  · next hpending _ =>
    -- an option without its value does not settle
    have hsettle := h.settle_eq
    unfold settle at hsettle
    rw [hpending] at hsettle
    exact nomatch hsettle
  · rw [hnone, if_neg Bool.false_ne_true, h.settle_eq]
    rfl

/-! ### Whole pieces -/

/-- Reading the arguments from `s` on gives what settles as `t`. -/
def Reads (s : Scan) (args : List String) (t : Scan) : Prop :=
  ∃ s', args.foldlM step s = .ok s' ∧ s'.Settles t

theorem reads_of_step {s' : Scan} {arg : String} (hstep : s.step arg = .ok s')
    (h : s'.Settles t) : s.Reads [arg] t := by
  refine ⟨s', ?_, h⟩
  rw [List.foldlM_cons, hstep]
  rfl

/-- The value of an option in the next argument, once the option awaits it. -/
theorem reads_of_await {s' : Scan} {arg text : String} {option : ValueOption}
    (hstep : s.step arg = s'.await option) (h : s'.Settles t)
    (hfits : (Item.value option text).Fits) (hfree : t.Free (.value option text)) :
    s.Reads [arg, text] (t.put (.value option text)) := by
  obtain ⟨s'', hs'', hsettles⟩ := exists_await_step h hfits hfree
  refine ⟨s'', ?_, hsettles⟩
  rw [List.foldlM_cons, hstep, ← hs'']
  congr 1
  funext s
  rw [List.foldlM_cons]
  exact bind_pure _

/-- The value of an option in the argument of the option. -/
theorem reads_of_attached {s' : Scan} {arg text : String} {option : ValueOption}
    (hstep : s.step arg = s'.attached option text.toList) (h : s'.Settles t)
    (hfits : (Item.value option text).Fits) (hfree : t.Free (.value option text)) :
    s.Reads [arg] (t.put (.value option text)) :=
  reads_of_step (hstep.trans (attached_eq h hfits hfree)) (h.put _)

theorem longName_ne_nil (option : ValueOption) : option.longName.toList ≠ [] := by
  cases option <;> decide

/-- An option with its value behind an equals sign is one argument. -/
theorem step_equals (hopen : s.optionsEnded = false) (option : ValueOption) (text : String) :
    s.step ("--" ++ option.longName ++ "=" ++ text) = s.attached option text.toList := by
  have htext : ("--" ++ option.longName ++ "=" ++ text).toList =
      '-' :: '-' :: (option.longName.toList ++ '=' :: text.toList) := by
    simp only [String.toList_append, List.append_assoc]
    rfl
  have hne := List.append_ne_nil_of_left_ne_nil (longName_ne_nil option) ('=' :: text.toList)
  rw [step_long hopen htext hne, long_equals]

theorem reads_named (joint : Joint) {option : ValueOption} {text : String} (h : s.Settles t)
    (hfits : (Item.value option text).Fits) (hfree : t.Free (.value option text)) :
    s.Reads (Piece.named option joint text).args (t.put (.value option text)) := by
  cases joint with
  | apart =>
    have htext : ("--" ++ option.longName).toList = '-' :: '-' :: option.longName.toList := by
      rw [String.toList_append]
      rfl
    refine reads_of_await ?_ h hfits hfree
    rw [step_long h.isOpen htext (longName_ne_nil option), long_longName]
  | equals => exact reads_of_attached (step_equals h.isOpen option text) h hfits hfree

/-- Raises leave the field of any item free. -/
theorem Free.foldl_put_replicate {i : Item} (h : t.Free i) (raises : Nat) :
    ((List.replicate raises Item.raise).foldl put t).Free i := fun f hf => by
  rw [filled_foldl_put fun j hj => by rw [List.eq_of_mem_replicate hj]; exact nofun]
  exact h f hf

theorem reads_lettered (raises : Nat) (joint : Joint) {option : Lettered} {text : String}
    (h : s.Settles t) (hfits : (Item.value option.option text).Fits)
    (hfree : t.Free (.value option.option text)) :
    s.Reads (Piece.lettered raises option joint text).args
      (((List.replicate raises Item.raise).foldl put t).put (.value option.option text)) := by
  have hroom := hfree.foldl_put_replicate raises
  cases joint with
  | apart =>
    obtain ⟨s', hs', hstep⟩ := exists_step_bundle h raises option.letter
      (by cases option <;> decide)
    rw [short_letter] at hstep
    exact reads_of_await hstep hs' hfits hroom
  | equals =>
    have htext : (option.letter ++ "=" ++ text).toList =
        option.letter.toList ++ '=' :: text.toList := by
      simp only [String.toList_append, List.append_assoc]
      rfl
    obtain ⟨s', hs', hstep⟩ := exists_step_bundle h raises
      (option.letter ++ "=" ++ text) (by rw [htext]; cases option <;> rfl)
    rw [htext, short_letter_equals] at hstep
    exact reads_of_attached hstep hs' hfits hroom

theorem reads_attached (raises : Nat) {option : Lettered} {text : String}
    (h : s.Settles t) (hfits : (Item.value option.option text).Fits)
    (hfree : t.Free (.value option.option text)) :
    s.Reads (Piece.attached raises option text).args
      (((List.replicate raises Item.raise).foldl put t).put (.value option.option text)) := by
  have htext := String.toList_append (s := option.letter) (t := text)
  obtain ⟨s', hs', hstep⟩ := exists_step_bundle h raises (option.letter ++ text)
    (by rw [htext]; cases option <;> rfl)
  rw [htext, short_letter_attached _ _ hfits.bare] at hstep
  exact reads_of_attached hstep hs' hfits (hfree.foldl_put_replicate raises)

/-- **A piece puts its items** where they fit and are free. -/
theorem reads_args (p : Piece) (h : s.Settles t) (hfits : ∀ i ∈ p.items, i.Fits)
    (hfree : ∀ i ∈ p.items, t.Free i) : s.Reads p.args (p.items.foldl put t) := by
  cases p with
  | descriptor text =>
    refine reads_of_step ?_ (h.put (.descriptor text))
    rw [step_plain h.isOpen (hfits _ (List.mem_singleton_self _))]
    exact plain_descriptor h (hfree _ (List.mem_singleton_self _))
  | raise =>
    have htext : "--verbose".toList = '-' :: '-' :: "verbose".toList := rfl
    refine reads_of_step ?_ (h.put .raise)
    rw [step_long h.isOpen htext (by decide)]
    exact flag_verbose h
  | letters more =>
    obtain ⟨s', hs', hstep⟩ := exists_step_bundle h more "v" (by decide)
    rw [Piece.items, List.foldl_append]
    exact reads_of_step (hstep.trans (short_raise hs' [])) (hs'.put _)
  | named option joint text =>
    exact reads_named joint h (hfits _ (List.mem_singleton_self _))
      (hfree _ (List.mem_singleton_self _))
  | lettered raises option joint text =>
    have hmem := List.mem_append_right (List.replicate raises Item.raise)
      (List.mem_singleton_self (Item.value option.option text))
    rw [Piece.items, List.foldl_append]
    exact reads_lettered raises joint h (hfits _ hmem) (hfree _ hmem)
  | attached raises option text =>
    have hmem := List.mem_append_right (List.replicate raises Item.raise)
      (List.mem_singleton_self (Item.value option.option text))
    rw [Piece.items, List.foldl_append]
    exact reads_attached raises h (hfits _ hmem) (hfree _ hmem)

/-- **Pieces put their items one after the other**, if all fit and no two
fill one field. -/
theorem reads_flatMap_args {pieces : List Piece} (h : s.Settles t)
    (hfits : ∀ i ∈ pieces.flatMap Piece.items, i.Fits)
    (hfree : ∀ i ∈ pieces.flatMap Piece.items, t.Free i)
    (hapart : (pieces.flatMap Piece.items).Pairwise Item.Apart) :
    s.Reads (pieces.flatMap Piece.args) ((pieces.flatMap Piece.items).foldl put t) := by
  induction pieces generalizing s t with
  | nil => exact ⟨s, rfl, h⟩
  | cons p pieces ih =>
    rw [List.flatMap_cons] at hfits hfree hapart ⊢
    rw [List.forall_mem_append] at hfits hfree
    rw [List.pairwise_append] at hapart
    obtain ⟨s', hs', hsettles⟩ := reads_args p h hfits.1 hfree.1
    have hroom : ∀ j ∈ pieces.flatMap Piece.items, (p.items.foldl put t).Free j := by
      intro j hj f hf
      rw [filled_foldl_put fun i hi heq => ?_]
      · exact hfree.2 j hj f hf
      · rcases hapart.2.2 i hi j hj with hnone | hne
        · exact nomatch hnone.symm.trans heq
        · exact hne (heq.trans hf.symm)
    obtain ⟨s'', hs'', hlast⟩ := ih hsettles hfits.2 hroom hapart.2.1
    refine ⟨s'', ?_, ?_⟩
    · rw [List.foldlM_append, hs']
      exact hs''
    · rw [List.flatMap_cons, List.foldl_append]
      exact hlast

/-- Before anything has been read every field is free. -/
theorem filled_start (f : Field) : ({} : Scan).filled f = false := by
  cases f with
  | value option => cases option <;> rfl
  | descriptor => rfl

theorem reads_start {pieces : List Piece} (hfits : ∀ i ∈ pieces.flatMap Piece.items, i.Fits)
    (hapart : (pieces.flatMap Piece.items).Pairwise Item.Apart) :
    Reads {} (pieces.flatMap Piece.args) ((pieces.flatMap Piece.items).foldl put {}) :=
  reads_flatMap_args (settles_self rfl rfl) hfits (fun _ _ f _ => filled_start f) hapart

end Scan

/-! ## Whole command lines -/

/-- **Items are understood in every order and spelling**, if each fits and no
two fill one field. -/
theorem parse_of_perm {items : List Item} {pieces : List Piece}
    (hitems : (pieces.flatMap Piece.items).Perm items) (hfits : ∀ i ∈ items, i.Fits)
    (hapart : items.Pairwise Item.Apart) :
    parse (pieces.flatMap Piece.args) = (items.foldl Scan.put {}).finish := by
  have hapart' : (pieces.flatMap Piece.items).Pairwise Item.Apart :=
    (hitems.pairwise_iff (Std.Symm.symm _ _)).2 hapart
  obtain ⟨s, hs, hsettles⟩ := Scan.reads_start (fun i hi => hfits i (hitems.mem_iff.1 hi)) hapart'
  rw [Scan.foldl_put_of_perm hitems hapart'] at hsettles
  unfold parse
  rw [hs]
  show s.finish = _
  unfold Scan.finish
  rw [hsettles.settle_eq, hsettles.settled.settle_eq]

/-- **A request is understood however it is written.** -/
theorem parse_flatMap_args (r : Request) {pieces : List Piece}
    (hitems : (pieces.flatMap Piece.items).Perm r.items) :
    parse (pieces.flatMap Piece.args) = .ok r.arguments := by
  rw [parse_of_perm hitems (fun i hi => r.fits_of_mem_items hi) r.pairwise_items,
    r.foldl_put_items]
  rfl

/-- **Settings do not depend on how a command line is written.** Whatever
order and spelling the items of a request stand in, the arguments are
understood; the descriptor is as it was given, raises count up to 255, and a
setting is the one that was asked for, or else that of the file, or else its
default, each on its own. The level is left to the file. -/
theorem settings_independent_of_spelling (r : Request) {pieces : List Piece}
    (hitems : (pieces.flatMap Piece.items).Perm r.items) {files : String → FileState}
    {file : Settings} (hfile : FileGives files r.config (.ok file)) :
    ∃ a, parse (pieces.flatMap Piece.args) = .ok a ∧ a.descriptor = r.descriptor ∧
      a.verbose = min r.raises 255 ∧ Run.settings files a = .ok {
        padding := (r.padding.map AnyCase.value).getD file.padding
        validation := (r.validation.map AnyCase.value).getD file.validation
        format := r.format.getD file.format
        level := file.level } := by
  refine ⟨r.arguments, parse_flatMap_args r hitems, rfl, rfl, ?_⟩
  rw [settings_eq_of_fileGives (a := r.arguments) hfile]
  rfl

/-- Three raises in two bundles, one of them in front of the path, and a
descriptor between the options. The file has its own padding and format. -/
theorem settings_independent_of_spelling_bundled :
    let files : String → FileState := fun _ =>
      .contents "padding=\"legacy\"\nformat=\"yaml\"".toUTF8
    ∃ a, parse ["-vvcdecoder.toml", "--validation", "Slots", "0x00", "-v", "-f=json"] = .ok a ∧
      a.descriptor = "0x00" ∧ a.verbose = 3 ∧ Run.settings files a = .ok {
        padding := .legacy, validation := .slots, format := .json, level := .warn } := by
  let r : Request := {
    descriptor := "0x00"
    raises := 3
    config := some "decoder.toml"
    validation := some ⟨.slots, "Slots", by decide⟩
    format := some .json
    noOption := by decide
    barePath := by decide }
  intro files
  have htoml : Settings.ofToml "padding=\"legacy\"\nformat=\"yaml\"" =
      .ok { padding := .legacy, format := .yaml } := by
    decide +kernel
  let pieces : List Piece := [.attached 2 .config "decoder.toml",
    .named .validation .apart "Slots", .descriptor "0x00", .letters 0,
    .lettered 0 .format .equals "json"]
  have hitems : (pieces.flatMap Piece.items).Perm r.items := by decide
  exact settings_independent_of_spelling r hitems (.settings rfl htoml)

end CommandLine

end CallDescriptor
