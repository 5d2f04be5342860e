import CallDescriptor.Log.Record
import Mathlib.Data.List.Forall2
/-!
# More verbose logs only gain lines

A higher base level leaves every directive of a filter at its level or
above, so the level in force for a target does not fall, and what passed
before still passes (`Filter.lines_sublist`). That is so under any
specification: a directive it names keeps its own level, and which
directive decides depends on targets alone.
-/

namespace CallDescriptor

/-! ## Levels -/

namespace Level

variable {l m n : Level}

@[simp] theorem rank_ofRank (k : Nat) : (ofRank k).rank = min k 5 := by
  match k with
  | 0 => rfl
  | 1 => rfl
  | 2 => rfl
  | 3 => rfl
  | 4 => rfl
  | k + 5 =>
    rw [Nat.min_eq_right (by omega)]
    rfl

theorem rank_raise (l : Level) (steps : Nat) : (l.raise steps).rank = min (l.rank + steps) 5 := by
  rw [raise, rank_ofRank]

/-- Further raises never lower a level. -/
theorem rank_raise_mono (l : Level) {j k : Nat} (h : j ≤ k) :
    (l.raise j).rank ≤ (l.raise k).rank := by
  rw [rank_raise, rank_raise]
  omega

/-- **Five raises reach the top** from every level. -/
theorem raise_of_five_le (l : Level) {k : Nat} (h : 5 ≤ k) : l.raise k = trace := by
  have hrank : (l.raise k).rank = 5 := by
    rw [rank_raise]
    omega
  cases hl : l.raise k <;> simp [hl, rank] at hrank ⊢

theorem passes_mono (h : m.rank ≤ n.rank) (hpass : l.passes m = true) : l.passes n = true := by
  simp only [passes, decide_eq_true_eq] at hpass ⊢
  omega

theorem passes_trace (l : Level) : l.passes trace = true := by
  cases l <;> decide

end Level

/-! ## Directives -/

/-- The same target with a level that is not lower. -/
def Directive.AtMost (d e : Directive) : Prop :=
  d.target = e.target ∧ d.level.rank ≤ e.level.rank

namespace Filter

open Directive

theorem atMost_refl (d : Directive) : d.AtMost d := ⟨rfl, Nat.le_refl _⟩

/-- A directive takes the same place in both lists. -/
theorem forall₂_insert {ds es : List Directive} (h : List.Forall₂ AtMost ds es) (d : Directive) :
    List.Forall₂ AtMost (insert d ds) (insert d es) := by
  induction h with
  | nil => exact .cons (atMost_refl d) .nil
  | @cons a b as bs hab hrest ih =>
    unfold insert
    rw [hab.1]
    by_cases htarget : b.target = d.target
    · rw [if_pos htarget, if_pos htarget]
      exact .cons (atMost_refl d) hrest
    · rw [if_neg htarget, if_neg htarget]
      exact .cons hab ih

/-- So does a list of directives, one after the other. -/
theorem forall₂_foldl_insert (added : List Directive) {ds es : List Directive}
    (h : List.Forall₂ AtMost ds es) :
    List.Forall₂ AtMost (added.foldl (fun ds d => insert d ds) ds)
      (added.foldl (fun ds d => insert d ds) es) := by
  induction added generalizing ds es with
  | nil => exact h
  | cons d added ih => exact ih (forall₂_insert h d)

/-- The weight of a directive is that of its target. -/
theorem rel_heavier {best best' : Option Directive} {d e : Directive}
    (hbest : Option.Rel AtMost best best') (h : d.AtMost e) :
    Option.Rel AtMost (heavier best d) (heavier best' e) := by
  cases hbest with
  | none => exact .some h
  | @some b b' hb =>
    have hweight : b.weight ≤ d.weight ↔ b'.weight ≤ e.weight := by
      rw [weight, weight, weight, weight, hb.1, h.1]
    unfold heavier
    by_cases hle : b'.weight ≤ e.weight
    · simp only [if_pos hle, if_pos (hweight.2 hle)]
      exact .some h
    · simp only [if_neg hle, if_neg (mt hweight.1 hle)]
      exact .some hb

/-- **The level in force does not fall** where no directive falls. -/
theorem rank_levelFor_mono {f g : Filter} (h : List.Forall₂ AtMost f.directives g.directives)
    (target : String) : (f.levelFor target).rank ≤ (g.levelFor target).rank := by
  have hsame : ∀ d e : Directive, d.AtMost e → d.applies target = e.applies target := by
    intro d e hde
    unfold applies
    rw [hde.1]
  have happlies : List.Forall₂ AtMost (f.directives.filter (·.applies target))
      (g.directives.filter (·.applies target)) :=
    List.rel_filter (fun d e hde => Eq.to_iff (congrArg (· = true) (hsame d e hde))) h
  have hheavier : Relator.LiftFun (Option.Rel AtMost)
      (Relator.LiftFun AtMost (Option.Rel AtMost)) heavier heavier :=
    fun _ _ hbest _ _ hde => rel_heavier hbest hde
  have hbest := List.rel_foldl hheavier .none happlies
  unfold levelFor
  generalize (f.directives.filter (·.applies target)).foldl heavier none = best at hbest ⊢
  generalize (g.directives.filter (·.applies target)).foldl heavier none = best' at hbest ⊢
  cases hbest with
  | none => exact Nat.le_refl _
  | some h => exact h.2

/-! ## Specifications -/

variable {base base' : Level}

/-- **A higher base lowers no directive**, whatever refines it. -/
theorem forall₂_ofSpec (h : base.rank ≤ base'.rank) (spec : Option String) :
    List.Forall₂ AtMost (ofSpec base spec).directives (ofSpec base' spec).directives ∧
      (ofSpec base spec).pattern = (ofSpec base' spec).pattern := by
  have hbase : List.Forall₂ AtMost [⟨none, base⟩] [⟨none, base'⟩] := .cons ⟨rfl, h⟩ .nil
  unfold ofSpec
  split
  · exact ⟨forall₂_foldl_insert _ hbase, rfl⟩
  · exact ⟨forall₂_foldl_insert _ hbase, rfl⟩
  · exact ⟨hbase, rfl⟩

/-- **A higher base only adds lines**, and keeps those there are in order. -/
theorem lines_sublist (h : base.rank ≤ base'.rank) (spec : Option String)
    (records : List LogRecord) :
    ((ofSpec base spec).lines records).Sublist ((ofSpec base' spec).lines records) := by
  obtain ⟨hdirectives, hpattern⟩ := forall₂_ofSpec h spec
  refine List.Sublist.map _ (List.monotone_filter_right records fun r hr => ?_)
  unfold allows at hr ⊢
  rw [Bool.and_eq_true] at hr ⊢
  rw [← hpattern]
  exact ⟨Level.passes_mono (rank_levelFor_mono hdirectives r.target) hr.1, hr.2⟩

/-- Nothing is cut in an empty text. -/
theorem splitOn_empty {separator : String} (hne : separator ≠ "") :
    "".splitOn separator = [""] := by
  unfold String.splitOn
  rw [if_neg (by rw [beq_iff_eq]; exact hne)]
  unfold String.splitOnAux
  rfl

/-- Without a specification the base level is in force everywhere. -/
theorem ofSpec_none (base : Level) : ofSpec base none = ⟨[⟨none, base⟩], none⟩ := by
  have hentries : entries "" = [] := by
    unfold entries
    rw [splitOn_empty (by decide)]
    rfl
  unfold ofSpec
  rw [Option.getD_none, splitOn_empty (by decide)]
  simp only [hentries, List.foldl_nil]

/-- **At the top level everything is logged.** -/
theorem lines_of_trace (records : List LogRecord) :
    (ofSpec .trace none).lines records = records.map LogRecord.line := by
  have hall : ∀ r ∈ records, (ofSpec .trace none).allows r.level r.target r.message = true := by
    intro r _
    have hlevel : (ofSpec .trace none).levelFor r.target = .trace := by
      rw [ofSpec_none]
      rfl
    rw [allows, hlevel, Level.passes_trace, ofSpec_none]
    rfl
  rw [lines, List.filter_eq_self.2 hall]

end Filter

end CallDescriptor
