import CallDescriptor.Text.Reader
/-!
# What readers take

`Takes` says what a reader takes off the front of a text and what it leaves.
There is a lemma for each way to put readers together, so what a reader made
of others takes is seen without unfolding any of them. For `many` a whole run
is needed: `TakesMany` lists what is taken, one value after the other, up to
where the reader refuses.
-/

namespace CallDescriptor

namespace Text

namespace Reader

variable {α β : Type} {r : Reader α} {text mid rest : List Char} {a : α} {b : β}

/-- `r` takes `a` off the front of `text` and leaves `rest`. -/
def Takes (r : Reader α) (text : List Char) (a : α) (rest : List Char) : Prop :=
  r text = some (a, rest)

/-- A reader that takes the whole text gives its value. -/
theorem Takes.run?_eq (h : Takes r text a []) : run? r text = some a := by
  rw [run?, StateT.run, h]

/-! ## Putting readers together -/

theorem takes_pure : Takes (pure a) text a text := rfl

theorem Takes.bind {f : α → Reader β} (h : Takes r text a mid) (hf : Takes (f a) mid b rest) :
    Takes (r >>= f) text b rest := by
  have hbind : (r >>= f) text = (r text).bind fun p => f p.1 p.2 := rfl
  rw [Takes, hbind, h]
  exact hf

/-- Nothing is read behind a part that is refused. -/
theorem bind_refuses {f : α → Reader β} (h : r text = none) : (r >>= f) text = none := by
  have hbind : (r >>= f) text = (r text).bind fun p => f p.1 p.2 := rfl
  rw [hbind, h]
  rfl

theorem Takes.map (f : α → β) (h : Takes r text a rest) : Takes (f <$> r) text (f a) rest := by
  have hmap : (f <$> r) text = (r text).bind fun p => some (f p.1, p.2) := rfl
  rw [Takes, hmap, h]
  rfl

theorem Takes.orElse (h : Takes r text a rest) (r' : Reader α) : Takes (r <|> r') text a rest := by
  have hor : (r <|> r') text = (r text <|> r' text) := rfl
  rw [Takes, hor, h]
  rfl

/-- The second of two alternatives starts where the first was refused. -/
theorem takes_orElse_of_refused {r' : Reader α} (h : r text = none) (h' : Takes r' text a rest) :
    Takes (r <|> r') text a rest := by
  have hor : (r <|> r') text = (r text <|> r' text) := rfl
  rw [Takes, hor, h]
  exact h'

theorem takes_optional (h : Takes r text a rest) : Takes (optional r) text (some a) rest := by
  have hor : (optional r) text = ((some <$> r) text <|> some (none, text)) := rfl
  rw [Takes, hor, h.map some]
  rfl

/-- An optional part that is not there takes nothing. -/
theorem takes_optional_of_refused (h : r text = none) : Takes (optional r) text none text := by
  have hor : (optional r) text =
      ((r text).bind (fun p => some (some p.1, p.2)) <|> some (none, text)) := rfl
  rw [Takes, hor, h]
  rfl

theorem takes_accepts (h : Takes r text a rest) : Takes (accepts r) text true rest :=
  (takes_optional h).map _

theorem takes_accepts_of_refused (h : r text = none) : Takes (accepts r) text false text :=
  (takes_optional_of_refused h).map _

/-! ## Characters -/

variable {c d : Char} {cs : List Char} {p : Char → Bool}

theorem takes_peek : Takes peek text text.head? text := rfl

theorem takes_satisfy (hc : p c = true) : Takes (satisfy p) (c :: rest) c rest := by
  rw [Takes, satisfy, if_pos hc]

theorem takes_char : Takes (char c) (c :: rest) () rest := by
  have htake : Takes (satisfy (· == c)) (c :: rest) c rest := takes_satisfy (beq_self_eq_true c)
  exact htake.bind takes_pure

/-- A character refuses every text that begins with another. -/
theorem char_refuses (h : text.head? ≠ some c) : char c text = none := by
  cases text with
  | nil => rfl
  | cons d rest =>
    have hne : (d == c) = false := beq_false_of_ne fun hdc => h (congrArg some hdc)
    have hbind : char c (d :: rest) = (satisfy (· == c) (d :: rest)).bind fun p =>
      some ((), p.2) := rfl
    rw [hbind, satisfy, hne]
    rfl

theorem takes_word (s : String) : Takes (word s) (s.toList ++ rest) () rest := by
  unfold word
  induction s.toList with
  | nil => exact takes_pure
  | cons c cs ih => exact takes_char.bind ih

/-- Characters in order refuse every text that does not begin with them. -/
theorem word_refuses {s : String} (h : ¬ s.toList <+: text) : word s text = none := by
  unfold word
  generalize s.toList = cs at h ⊢
  induction cs generalizing text with
  | nil => exact absurd List.nil_prefix h
  | cons c cs ih =>
    have hbind : (c :: cs).forM char text = (char c text).bind fun p => cs.forM char p.2 := rfl
    by_cases hhead : text.head? = some c
    · obtain ⟨tail, rfl⟩ := List.head?_eq_some_iff.1 hhead
      have htake : Takes (char c) (c :: tail) () tail := takes_char
      rw [hbind, htake]
      exact ih fun hcs => h (List.cons_prefix_cons.2 ⟨rfl, hcs⟩)
    · rw [hbind, char_refuses hhead]
      rfl

/-- A run of characters ends before the first that is none of them. -/
theorem takes_takeWhile (hcs : ∀ c ∈ cs, p c = true) (hrest : ∀ c ∈ rest.head?, p c = false) :
    Takes (takeWhile p) (cs ++ rest) cs rest := by
  have htake : rest.takeWhile p = [] := by
    cases rest with
    | nil => rfl
    | cons c rest => exact List.takeWhile_cons_of_neg (by rw [hrest c rfl]; exact Bool.false_ne_true)
  have hdrop : rest.dropWhile p = rest := by
    cases rest with
    | nil => rfl
    | cons c rest => exact List.dropWhile_cons_of_neg (by rw [hrest c rfl]; exact Bool.false_ne_true)
  rw [Takes, takeWhile, List.takeWhile_append_of_pos hcs, List.dropWhile_append_of_pos hcs, htake,
    hdrop, List.append_nil]

theorem takes_takeWhile1 (hne : cs ≠ []) (hcs : ∀ c ∈ cs, p c = true)
    (hrest : ∀ c ∈ rest.head?, p c = false) : Takes (takeWhile1 p) (cs ++ rest) cs rest := by
  refine (takes_takeWhile hcs hrest).bind ?_
  rw [if_neg (by simpa using hne)]
  exact takes_pure

theorem takes_count (hcs : ∀ c ∈ cs, p c = true) :
    Takes (count cs.length p) (cs ++ rest) cs rest := by
  unfold count
  induction cs with
  | nil => exact takes_pure
  | cons c cs ih =>
    rw [List.length_cons, List.replicate_succ, List.mapM_cons]
    exact (takes_satisfy (hcs c List.mem_cons_self)).bind
      ((ih fun d hd => hcs d (List.mem_cons_of_mem c hd)).bind takes_pure)

/-! ## Repetition -/

/-- `r` takes these values one after the other, a character at least for
each, and refuses what is left. -/
inductive TakesMany (r : Reader α) : List Char → List α → List Char → Prop
  | nil {text : List Char} (h : r text = none) : TakesMany r text [] text
  | cons {text mid rest : List Char} {a : α} {as : List α} (h : Takes r text a mid)
      (hlt : mid.length < text.length) (hrest : TakesMany r mid as rest) :
      TakesMany r text (a :: as) rest

/-- **All that can be taken is**: the bound on the rounds is never met. -/
theorem takes_many {as : List α} (h : TakesMany r text as rest) : Takes (many r) text as rest := by
  -- Each value pays for its round with a character, so that rounds do not run out before the text.
  have hupTo (n : Nat) (hn : text.length ≤ n) : Takes (upTo n (optional r)) text as rest := by
    induction h generalizing n with
    | nil h =>
      cases n with
      | zero => exact takes_pure
      | succ n => exact (takes_optional_of_refused h).bind takes_pure
    | cons h hlt _ ih =>
      cases n with
      | zero => exact absurd hn (Nat.not_le.2 (Nat.zero_lt_of_lt hlt))
      | succ n =>
        exact (takes_optional h).bind
          ((ih n (Nat.le_of_lt_succ (Nat.lt_of_lt_of_le hlt hn))).bind takes_pure)
  exact hupTo text.length (Nat.le_refl _)

theorem takes_sepBy1 {separator : Reader β} {as : List α} (h : Takes r text a mid)
    (hothers : TakesMany (do let _ ← separator; r) mid as rest) :
    Takes (sepBy1 r separator) text (a :: as) rest :=
  h.bind ((takes_many hothers).bind takes_pure)

end Reader

end Text

end CallDescriptor
