import CallDescriptor.Proofs.CommandLine.Spelling
/-!
# A name among other arguments

What a command line makes of one more option depends on its value alone,
wherever the option stands among the arguments of a request that does not have
it. `ReadsBy` is how an option comes by its value. A name that it knows sets
the value in what is asked for; any other text stops reading for the same
reason each time (`ReadsBy.parse_eq`).
-/

namespace CallDescriptor

namespace CommandLine

/-- The arguments are those of a request, in some order and spelling, and one
more that gives an option its value behind an equals sign. -/
structure Giving (r : Request) (option : ValueOption) (text : String) (args : List String) :
    Prop where
  /-- The request itself does not have the option. -/
  new : ∀ i ∈ r.items, i.field? ≠ some (.value option)
  /-- The option stands between pieces that make up the request. -/
  exists_pieces : ∃ before after, ((before ++ after).flatMap Piece.items).Perm r.items ∧
    args = (before ++ Piece.named option .equals text :: after).flatMap Piece.args

variable {r : Request} {option : ValueOption} {text : String} {args : List String}

/-- What fits is taken, and the rest is as it was asked for. -/
theorem parse_of_fits (h : Giving r option text args) (hfits : (Item.value option text).Fits) :
    parse args = (r.scan.put (.value option text)).finish := by
  obtain ⟨before, after, hperm, rfl⟩ := h.exists_pieces
  -- the option fills a field of its own, so it may as well be put last
  have hitems : ((before ++ Piece.named option .equals text :: after).flatMap Piece.items).Perm
      (r.items ++ [Item.value option text]) := by
    rw [List.flatMap_append] at hperm
    rw [List.flatMap_append, List.flatMap_cons]
    exact List.perm_middle.trans
      ((hperm.cons _).trans (List.perm_append_singleton _ _).symm)
  have hapart : (r.items ++ [Item.value option text]).Pairwise Item.Apart := by
    rw [List.pairwise_append]
    refine ⟨r.pairwise_items, List.pairwise_singleton _ _, ?_⟩
    intro i hi j hj
    obtain rfl := List.mem_singleton.1 hj
    exact .inr (h.new i hi)
  rw [parse_of_perm hitems ?_ hapart, List.foldl_append, r.foldl_put_items]
  · rfl
  · intro i hi
    rcases List.mem_append.1 hi with hi | hi
    · exact r.fits_of_mem_items hi
    · rwa [List.mem_singleton.1 hi]

/-- What no scan that lacks the option takes stops reading there. -/
theorem parse_of_refused {e : Stop} (h : Giving r option text args)
    (hrefused : ∀ t : Scan, t.filled (.value option) = false → t.assign option text = .error e) :
    parse args = .error e := by
  obtain ⟨before, after, hperm, rfl⟩ := h.exists_pieces
  rw [List.flatMap_append] at hperm
  have hmem : ∀ i ∈ before.flatMap Piece.items, i ∈ r.items := fun i hi =>
    hperm.mem_iff.1 (List.mem_append_left _ hi)
  have hapart : (before.flatMap Piece.items).Pairwise Item.Apart :=
    (List.pairwise_append.1 ((hperm.pairwise_iff (Std.Symm.symm _ _)).2 r.pairwise_items)).1
  obtain ⟨s, hs, hsettles⟩ := Scan.reads_start (fun i hi => r.fits_of_mem_items (hmem i hi)) hapart
  -- what stands in front of the option has left its field free
  have hfree : ((before.flatMap Piece.items).foldl Scan.put {}).filled (.value option) = false := by
    rw [Scan.filled_foldl_put fun i hi => h.new i (hmem i hi)]
    exact Scan.filled_start _
  have hstop : s.step ("--" ++ option.longName ++ "=" ++ text) = .error e := by
    rw [Scan.step_equals hsettles.isOpen]
    unfold Scan.attached
    rw [hsettles.settle_eq, String.ofList_toList]
    exact hrefused _ hfree
  have hargs : (before ++ Piece.named option .equals text :: after).flatMap Piece.args =
      before.flatMap Piece.args ++
        ("--" ++ option.longName ++ "=" ++ text) :: after.flatMap Piece.args := by
    rw [List.flatMap_append, List.flatMap_cons]
    rfl
  unfold parse
  rw [hargs, List.foldlM_append, hs]
  show ((s.step _ >>= _) >>= _) = _
  rw [hstop]
  rfl

/-! ## Options with names -/

/-- How an option comes by its value: by `read`, to `set` it in what is asked
for, or with a `refusal` where nothing can be read. -/
structure ReadsBy {α : Type} (option : ValueOption) (read : String → Option α)
    (set : Option α → Arguments → Arguments) (refusal : Stop) : Prop where
  fits : ∀ {text v}, read text = some v → (Item.value option text).Fits
  finish_put : ∀ (r : Request) (text : String),
    (r.scan.put (.value option text)).finish = .ok (set (read text) r.arguments)
  assign_eq : ∀ {t : Scan} {text}, t.filled (.value option) = false → read text = none →
    t.assign option text = .error refusal

namespace ReadsBy

variable {α : Type} {read : String → Option α} {set : Option α → Arguments → Arguments}
variable {refusal : Stop} (h : ReadsBy option read set refusal)
include h

/-- **What is read is set, and nothing else is accepted.** -/
theorem parse_eq (hargs : Giving r option text args) :
    parse args = match read text with
      | some v => .ok (set (some v) r.arguments)
      | none => .error refusal := by
  cases hread : read text with
  | some v => rw [parse_of_fits hargs (h.fits hread), h.finish_put, hread]
  | none =>
    refine parse_of_refused hargs ?_
    intro t hfree
    exact h.assign_eq hfree hread

/-- Two texts that read alike have the same outcome. -/
theorem parse_congr {text' : String} {args' : List String} (hargs : Giving r option text args)
    (hargs' : Giving r option text' args') (hread : read text = read text') :
    parse args = parse args' := by
  rw [h.parse_eq hargs, h.parse_eq hargs', hread]

end ReadsBy

/-- **Padding is named in any case.** -/
theorem readsBy_padding : ReadsBy .padding (Named.ofNameAnyCase? (α := Padding))
    (fun p a => { a with padding := p }) .unknownName where
  fits h := ⟨bare_of_ofNameAnyCase? h, _, h⟩
  finish_put _ _ := rfl
  assign_eq hfree hnone := by
    rw [Scan.filled] at hfree
    rw [Scan.assign, hfree, if_neg Bool.false_ne_true, hnone]

/-- **And so is validation.** -/
theorem readsBy_validation : ReadsBy .validation (Named.ofNameAnyCase? (α := Validation))
    (fun v a => { a with validation := v }) .unknownName where
  fits h := ⟨bare_of_ofNameAnyCase? h, _, h⟩
  finish_put _ _ := rfl
  assign_eq hfree hnone := by
    rw [Scan.filled] at hfree
    rw [Scan.assign, hfree, if_neg Bool.false_ne_true, hnone]

/-- **A format is named as it is written.** -/
theorem readsBy_format : ReadsBy .format (Named.ofName? (α := ReportFormat))
    (fun f a => { a with format := f }) .invalidValue where
  fits h := ⟨bare_of_ofNameAnyCase? (Named.ofNameAnyCase?_of_ofName? h), _, h⟩
  finish_put _ _ := rfl
  assign_eq hfree hnone := by
    rw [Scan.filled] at hfree
    rw [Scan.assign, hfree, if_neg Bool.false_ne_true, hnone]

end CommandLine

end CallDescriptor
