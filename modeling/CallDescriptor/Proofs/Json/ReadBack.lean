import CallDescriptor.Proofs.Json.Tokens
/-!
# Values read back

What `pretty` writes is read back by `ofString?`, with the members of every
object in the order of their names (`ofString?_pretty`). `Plain` says of
which values: they hold no binary64 number and no integer that is not kept,
and nest no deeper than a text may. A value is read back at any indentation
and behind any white space, and what follows it is read up to the next
token (`Reads`): this is what an array or an object hands on to its items.
-/

namespace CallDescriptor

namespace Json

open Text Text.Reader

variable {d : Nat}

/-! ## The value that is read -/

mutual

/-- The value with the members of its objects by name, and only the last of
those that share one. -/
def sorted : Json → Json
  | array items => array (sortedItems items)
  | object members => ofMembers (sortedMembers members)
  | v => v

/-- `sorted` of each item. -/
def sortedItems : List Json → List Json
  | [] => []
  | item :: items => item.sorted :: sortedItems items

/-- `sorted` of the value of each member. -/
def sortedMembers : List (String × Json) → List (String × Json)
  | [] => []
  | (name, v) :: members => (name, v.sorted) :: sortedMembers members

end

/-- A value that can be read back where `d` arrays and objects may nest. -/
inductive Plain : Nat → Json → Prop
  | null {d : Nat} : Plain d null
  | boolean {d : Nat} (b : Bool) : Plain d (boolean b)
  | integer {d : Nat} {i : Int} (hlow : -(UInt64.size / 2 : Nat) ≤ i) (hhigh : i < UInt64.size) :
      Plain d (integer i)
  | string {d : Nat} (s : String) : Plain d (string s)
  | array {d : Nat} {items : List Json} (h : ∀ v ∈ items, Plain d v) : Plain (d + 1) (array items)
  | object {d : Nat} {members : List (String × Json)} (h : ∀ m ∈ members, Plain d m.2) :
      Plain (d + 1) (object members)

/-! ## Tokens -/

variable {α β : Type} {text tail rest token : List Char} {v : Json} {c : Char}

/-- `r` reads `a` from a token, behind any white space, and goes on to the
next one. -/
def Reads (r : Reader α) (token : List Char) (a : α) : Prop :=
  ∀ text rest, NumberEnd rest → text.dropWhile isBlank = token ++ rest →
    Takes r text a (rest.dropWhile isBlank)

/-- The text opens a value or a member: it begins with no white space, and
closes nothing. -/
def Opens (token : List Char) : Prop :=
  ∃ c cs, token = c :: cs ∧ isBlank c = false ∧ c ∉ [']', '\x7d']

theorem Opens.dropWhile (h : Opens token) (rest : List Char) :
    (token ++ rest).dropWhile isBlank = token ++ rest := by
  obtain ⟨c, cs, rfl, hblank, -⟩ := h
  exact List.dropWhile_cons_of_neg (by rw [hblank]; exact Bool.false_ne_true)

theorem Opens.takes_blank (h : Opens token) (depth : Nat) (rest : List Char) :
    Takes blank (newline depth ++ (token ++ rest)) () (token ++ rest) := by
  have hblank : Takes blank (newline depth ++ (token ++ rest)) () _ := Json.takes_blank
  rwa [dropWhile_newline, h.dropWhile] at hblank

theorem Opens.refuses (h : Opens token) (hc : c ∈ [']', '\x7d']) (rest : List Char) :
    char c (token ++ rest) = none := by
  obtain ⟨c', cs, rfl, -, hc'⟩ := h
  exact char_refuses fun h => hc' (Option.some.inj h ▸ hc)

theorem Plain.opens (h : Plain d v) (depth : Nat) : Opens (prettyAt depth v) := by
  cases h with
  | null => exact ⟨'n', _, rfl, rfl, by decide⟩
  | boolean b =>
    cases b with
    | false => exact ⟨'f', _, rfl, rfl, by decide⟩
    | true => exact ⟨'t', _, rfl, rfl, by decide⟩
  | @integer _ i hlow hhigh =>
    obtain ⟨c, cs, hcs, hne⟩ := exists_toString_eq_cons i
    have hblank : isBlank c = false := by
      simp only [isBlank, Bool.or_eq_false_iff, beq_eq_false_iff_ne]
      exact ⟨⟨⟨hne _ (by decide) (by decide), hne _ (by decide) (by decide)⟩,
        hne _ (by decide) (by decide)⟩, hne _ (by decide) (by decide)⟩
    have hclose : c ∉ [']', '\x7d'] := by
      simp only [List.mem_cons, List.not_mem_nil, or_false, not_or]
      exact ⟨hne _ (by decide) (by decide), hne _ (by decide) (by decide)⟩
    exact ⟨c, cs, hcs, hblank, hclose⟩
  | string s => exact ⟨'"', _, rfl, rfl, by decide⟩
  | @array _ items hitems =>
    cases items with
    | nil => exact ⟨'[', _, rfl, rfl, by decide⟩
    | cons item items => exact ⟨'[', _, rfl, rfl, by decide⟩
  | @object _ members hmembers =>
    cases members with
    | nil => exact ⟨'\x7b', _, rfl, rfl, by decide⟩
    | cons m members => exact ⟨'\x7b', _, rfl, rfl, by decide⟩

theorem reads_spaced {r : Reader Json}
    (h : ∀ rest, NumberEnd rest → Takes r (token ++ rest) v rest) : Reads (spaced r) token v := by
  intro text rest hrest htext
  refine takes_blank.bind ?_
  rw [htext]
  exact (h rest hrest).bind (takes_blank.bind takes_pure)

/-! ## Scalars -/

/-- At any depth a value that does not open an array or an object is read as
a scalar. -/
theorem reads_value_of_scalar {cs : List Char} (hsquare : c ≠ '[') (hcurly : c ≠ '\x7b')
    (h : ∀ rest, NumberEnd rest → Takes scalar (c :: cs ++ rest) v rest) :
    Reads (value d) (c :: cs) v := by
  cases d with
  | zero => exact reads_spaced h
  | succ d =>
    refine reads_spaced fun rest hrest => takes_peek.bind ?_
    split
    · next hc => exact absurd (Option.some.inj hc) hsquare
    · next hc => exact absurd (Option.some.inj hc) hcurly
    · exact h rest hrest

theorem reads_null : Reads (value d) "null".toList null :=
  reads_value_of_scalar (by decide) (by decide) fun _ _ =>
    takes_peek.bind ((takes_word "null").bind takes_pure)

theorem reads_false : Reads (value d) "false".toList (boolean false) :=
  reads_value_of_scalar (by decide) (by decide) fun _ _ =>
    takes_peek.bind ((takes_word "false").bind takes_pure)

theorem reads_true : Reads (value d) "true".toList (boolean true) :=
  reads_value_of_scalar (by decide) (by decide) fun _ _ =>
    takes_peek.bind ((takes_word "true").bind takes_pure)

theorem reads_string (s : String) : Reads (value d) (quote s) (string s) :=
  reads_value_of_scalar (by decide) (by decide) fun rest _ =>
    takes_peek.bind ((takes_quotedString s rest).map string)

theorem reads_integer {i : Int} (hlow : -(UInt64.size / 2 : Nat) ≤ i) (hhigh : i < UInt64.size) :
    Reads (value d) (toString i).toList (integer i) := by
  have hnumber (rest : List Char) (hrest : NumberEnd rest) :=
    takes_number_toString hlow hhigh hrest
  obtain ⟨c, cs, hcs, hne⟩ := exists_toString_eq_cons i
  rw [hcs] at hnumber ⊢
  refine reads_value_of_scalar (hne _ (by decide) (by decide)) (hne _ (by decide) (by decide))
    fun rest hrest => takes_peek.bind ?_
  split
  · next h => exact absurd (Option.some.inj h) (hne _ (by decide) (by decide))
  · next h => exact absurd (Option.some.inj h) (hne _ (by decide) (by decide))
  · next h => exact absurd (Option.some.inj h) (hne _ (by decide) (by decide))
  · next h => exact absurd (Option.some.inj h) (hne _ (by decide) (by decide))
  · exact hnumber rest hrest

/-! ## Rows of items or members -/

variable {r : Reader β} {write : α → List Char} {result : α → β} {close : Char}

/-- What stands after the first of several elements: each of the others after
its comma, and the character that closes the row. -/
def others (depth : Nat) (write : α → List Char) (es : List α) (close : Char) (rest : List Char) :
    List Char :=
  (es.flatMap fun e => ',' :: newline (depth + 1) ++ write e) ++ (newline depth ++ close :: rest)

theorem numberEnd_others (depth : Nat) (es : List α) :
    NumberEnd (others depth write es close rest) := by
  cases es with
  | nil =>
    rintro c ⟨⟩
    decide
  | cons e es =>
    rintro c ⟨⟩
    decide

/-- After an element come the others and the end. -/
theorem takesMany_others {es : List α} (hreads : ∀ e ∈ es, Reads r (write e) (result e))
    (hopens : ∀ e ∈ es, Opens (write e)) (hblank : isBlank close = false) (hclose : close ≠ ',')
    (depth : Nat) (rest : List Char) :
    TakesMany (do let _ ← char ','; r)
      ((others depth write es close rest).dropWhile isBlank) (es.map result) (close :: rest) := by
  induction es with
  | nil =>
    have hend : (others depth write [] close rest).dropWhile isBlank = close :: rest := by
      rw [others, List.flatMap_nil, List.nil_append, dropWhile_newline]
      exact List.dropWhile_cons_of_neg (by rw [hblank]; exact Bool.false_ne_true)
    rw [hend]
    exact .nil (bind_refuses (char_refuses fun h => hclose (Option.some.inj h)))
  | cons e es ih =>
    -- The comma stands right behind the element before; the next element is on a new line.
    have htext : (others depth write (e :: es) close rest).dropWhile isBlank =
        ',' :: (newline (depth + 1) ++ (write e ++ others depth write es close rest)) := by
      simp only [others, List.flatMap_cons, List.append_assoc, List.cons_append]
      rfl
    have he : (newline (depth + 1) ++ (write e ++ others depth write es close rest)).dropWhile
        isBlank = write e ++ others depth write es close rest := by
      rw [dropWhile_newline, (hopens e List.mem_cons_self).dropWhile]
    have hlength := (List.dropWhile_suffix (l := others depth write es close rest)
      isBlank).length_le
    rw [htext]
    refine .cons (takes_char.bind (hreads e List.mem_cons_self _ _ (numberEnd_others depth es) he))
      ?_ (ih (fun e' he' => hreads e' (List.mem_cons_of_mem e he'))
        fun e' he' => hopens e' (List.mem_cons_of_mem e he'))
    simp only [List.length_cons, List.length_append]
    omega

/-- **A row of elements is read back** up to the character that closes it. -/
theorem takes_row {e : α} {es : List α} (hreads : ∀ e' ∈ e :: es, Reads r (write e') (result e'))
    (hopens : ∀ e' ∈ e :: es, Opens (write e')) (hblank : isBlank close = false)
    (hclose : close ≠ ',') (depth : Nat) (rest : List Char) :
    Takes (sepBy1 r (char ',')) (write e ++ others depth write es close rest)
      ((e :: es).map result) (close :: rest) := by
  have hfirst := hreads e List.mem_cons_self _ _ (numberEnd_others depth es)
    ((hopens e List.mem_cons_self).dropWhile (others depth write es close rest))
  exact takes_sepBy1 hfirst (takesMany_others
    (fun e' he' => hreads e' (List.mem_cons_of_mem e he'))
    (fun e' he' => hopens e' (List.mem_cons_of_mem e he')) hblank hclose depth rest)

/-! ## Arrays -/

theorem prettyItems_eq_flatMap (depth : Nat) (items : List Json) :
    prettyItems depth items = items.flatMap fun v => ',' :: newline depth ++ prettyAt depth v := by
  induction items with
  | nil => rfl
  | cons item items ih => rw [prettyItems, ih, List.flatMap_cons]

theorem sortedItems_eq_map (items : List Json) : sortedItems items = items.map sorted := by
  induction items with
  | nil => rfl
  | cons item items ih => rw [sortedItems, ih, List.map_cons]

theorem reads_array {items : List Json} (hplain : ∀ v ∈ items, Plain d v)
    (hreads : ∀ v ∈ items, ∀ depth, Reads (value d) (prettyAt depth v) v.sorted) (depth : Nat) :
    Reads (value (d + 1)) (prettyAt depth (array items)) (array items).sorted := by
  refine reads_spaced fun rest _ => ?_
  cases items with
  | nil =>
    -- An empty array has no line of its own to close on.
    exact takes_peek.bind (takes_char.bind (takes_blank.bind
      ((takes_accepts takes_char).bind takes_pure)))
  | cons item items =>
    have hopens (v : Json) (hv : v ∈ item :: items) := (hplain v hv).opens (depth + 1)
    have hfirst := hopens item List.mem_cons_self
    have hrow := takes_row (fun v hv => hreads v hv (depth + 1)) hopens rfl
      (by decide : ']' ≠ ',') depth rest
    have htext : prettyAt depth (array (item :: items)) ++ rest =
        '[' :: (newline (depth + 1) ++ (prettyAt (depth + 1) item ++
          others depth (prettyAt (depth + 1)) items ']' rest)) := by
      rw [prettyAt, prettyItems_eq_flatMap, others]
      simp only [List.append_assoc, List.cons_append, List.nil_append]
    rw [htext, sorted, sortedItems_eq_map]
    exact takes_peek.bind (takes_char.bind ((hfirst.takes_blank (depth + 1) _).bind
      ((takes_accepts_of_refused (hfirst.refuses (by decide) _)).bind
        (hrow.bind (takes_char.bind takes_pure)))))

/-! ## Objects -/

/-- A member as it is written. -/
def prettyMember (depth : Nat) (m : String × Json) : List Char :=
  quote m.1 ++ [':', ' '] ++ prettyAt depth m.2

theorem prettyMembers_eq_flatMap (depth : Nat) (members : List (String × Json)) :
    prettyMembers depth members =
      members.flatMap fun m => ',' :: newline depth ++ prettyMember depth m := by
  induction members with
  | nil => rfl
  | cons m members ih =>
    rw [prettyMembers, ih, List.flatMap_cons, prettyMember]
    simp only [List.append_assoc]

theorem sortedMembers_eq_map (members : List (String × Json)) :
    sortedMembers members = members.map fun m => (m.1, m.2.sorted) := by
  induction members with
  | nil => rfl
  | cons m members ih => rw [sortedMembers, ih, List.map_cons]

theorem opens_prettyMember (depth : Nat) (m : String × Json) : Opens (prettyMember depth m) :=
  ⟨'"', _, rfl, rfl, by decide⟩

theorem reads_member {depth : Nat} {m : String × Json} (hopens : Opens (prettyAt depth m.2))
    (h : Reads (value d) (prettyAt depth m.2) v) :
    Reads (member (value d)) (prettyMember depth m) (m.1, v) := by
  intro text rest hrest htext
  have hname : prettyMember depth m ++ rest =
      quote m.1 ++ (':' :: ' ' :: (prettyAt depth m.2 ++ rest)) := by
    simp only [prettyMember, List.append_assoc, List.cons_append, List.nil_append]
  rw [hname] at htext
  refine takes_blank.bind ?_
  rw [htext]
  exact (takes_quotedString m.1 _).bind (takes_blank.bind (takes_char.bind
    ((h (' ' :: (prettyAt depth m.2 ++ rest)) rest hrest (hopens.dropWhile rest)).bind
      takes_pure)))

theorem reads_object {members : List (String × Json)} (hplain : ∀ m ∈ members, Plain d m.2)
    (hreads : ∀ m ∈ members, ∀ depth, Reads (value d) (prettyAt depth m.2) m.2.sorted)
    (depth : Nat) :
    Reads (value (d + 1)) (prettyAt depth (object members)) (object members).sorted := by
  refine reads_spaced fun rest _ => ?_
  cases members with
  | nil =>
    exact takes_peek.bind (takes_char.bind (takes_blank.bind
      ((takes_accepts takes_char).bind takes_pure)))
  | cons m members =>
    have hfirst := opens_prettyMember (depth + 1) m
    have hrow := takes_row
      (fun m' hm' => reads_member ((hplain m' hm').opens (depth + 1)) (hreads m' hm' (depth + 1)))
      (fun m' _ => opens_prettyMember (depth + 1) m') rfl (by decide : '\x7d' ≠ ',') depth rest
    have htext : prettyAt depth (object (m :: members)) ++ rest =
        '\x7b' :: (newline (depth + 1) ++ (prettyMember (depth + 1) m ++
          others depth (prettyMember (depth + 1)) members '\x7d' rest)) := by
      rw [prettyAt, prettyMembers_eq_flatMap, others, prettyMember]
      simp only [List.append_assoc, List.cons_append, List.nil_append]
    rw [htext, sorted, sortedMembers_eq_map]
    exact takes_peek.bind (takes_char.bind ((hfirst.takes_blank (depth + 1) _).bind
      ((takes_accepts_of_refused (hfirst.refuses (by decide) _)).bind
        (hrow.bind (takes_blank.bind (takes_char.bind takes_pure))))))

/-! ## Whole texts -/

/-- **A plain value reads back** where it is the next token, however far it
is indented. -/
theorem Plain.reads (h : Plain d v) (depth : Nat) :
    Reads (value d) (prettyAt depth v) v.sorted := by
  -- Along what may nest: items are written one level further in than their array.
  induction h generalizing depth with
  | null => exact reads_null
  | boolean b =>
    cases b with
    | false => exact reads_false
    | true => exact reads_true
  | integer hlow hhigh => exact reads_integer hlow hhigh
  | string s => exact reads_string s
  | array hplain ih => exact reads_array hplain ih depth
  | object hplain ih => exact reads_object hplain ih depth

/-- **What is written can be read**: a plain value, its line ended, is read
as itself with its members in order. -/
theorem ofString?_pretty (h : Plain maxDepth v) :
    ofString? (String.ofList (v.pretty ++ ['\n'])) = some v.sorted := by
  have hend : NumberEnd ['\n'] := by
    rintro c ⟨⟩
    decide
  have hread := h.reads 0 _ ['\n'] hend ((h.opens 0).dropWhile _)
  rw [ofString?, String.toList_ofList]
  exact Takes.run?_eq hread

end Json

end CallDescriptor
