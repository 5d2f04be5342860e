import CallDescriptor.Proofs.Hex.Writing
import CallDescriptor.Proofs.Text.Taking
import CallDescriptor.Toml.Document
/-!
# Strings in a settings file

Any string can be the value of a key: in double quotes, with each character
that cannot stand for itself there written by its code point. The line that
gives a key such a string reads as a document with that one entry
(`ofString?_stringEntry`), whatever characters the string holds.
-/

namespace CallDescriptor

namespace Toml

open Text Text.Reader

variable {rest : List Char} {key : String}

/-! ## Writing -/

/-- Whether a character of a string in double quotes stands for itself. -/
def isPlain (c : Char) : Bool := isPrintable c && c != '"' && c != '\\'

/-- A character as it stands in double quotes. -/
def quotedChar (c : Char) : List Char :=
  if isPlain c then [c] else '\\' :: 'U' :: Hex.ofNat 8 c.toNat

/-- A string in double quotes. -/
def quoted (s : String) : List Char := '"' :: (s.toList.flatMap quotedChar ++ ['"'])

/-- The line that gives a key a string. -/
def stringEntry (key s : String) : String := String.ofList (key.toList ++ " = ".toList ++ quoted s)

/-! ## Strings read back -/

/-- A code point in eight digits is that of its character. -/
theorem charOfHex?_ofNat (c : Char) : charOfHex? (Hex.ofNat 8 c.toNat) = some c := by
  have hlt : c.toNat < 16 ^ 8 := c.val.toNat_lt
  have hvalue : digitsValue 16 (Hex.ofNat 8 c.toNat) = c.toNat := by
    rw [Hex.digitsValue_ofNat, Nat.mod_eq_of_lt hlt]
  have hvalid : c.toNat.isValidChar := c.valid
  show (if h : (digitsValue 16 (Hex.ofNat 8 c.toNat)).isValidChar then
    some (Char.ofNatAux (digitsValue 16 (Hex.ofNat 8 c.toNat)) h) else none) = some c
  generalize digitsValue 16 (Hex.ofNat 8 c.toNat) = n at hvalue
  subst hvalue
  rw [dif_pos hvalid, Option.some.injEq, ← Char.toNat_inj]
  rfl

/-- **A character reads back** from the way it stands in double quotes. -/
theorem takes_quotedChar (c : Char) (rest : List Char) :
    Takes (plainBasic <|> escaped) (quotedChar c ++ rest) c rest := by
  unfold quotedChar
  split
  · next hplain =>
    have htake : Takes plainBasic (c :: rest) c rest := takes_satisfy hplain
    exact htake.orElse escaped
  · have hlength : (Hex.ofNat 8 c.toNat).length = 8 := Hex.length_ofNat 8 c.toNat
    have hdigits : Takes (count 8 isHexDigit) (Hex.ofNat 8 c.toNat ++ rest)
        (Hex.ofNat 8 c.toNat) rest := by
      have htake : Takes (count (Hex.ofNat 8 c.toNat).length isHexDigit)
          (Hex.ofNat 8 c.toNat ++ rest) (Hex.ofNat 8 c.toNat) rest :=
        takes_count fun d hd => Hex.isHexDigit_of_mem_ofNat hd
      rwa [hlength] at htake
    have hlift : Takes (StateT.lift (charOfHex? (Hex.ofNat 8 c.toNat))) rest c rest := by
      rw [charOfHex?_ofNat]
      rfl
    refine takes_orElse_of_refused rfl ?_
    exact takes_char.bind ((takes_satisfy rfl).bind (hdigits.bind hlift))

theorem quotedChar_ne_nil (c : Char) : quotedChar c ≠ [] := by
  unfold quotedChar
  split
  · exact List.cons_ne_nil _ _
  · exact List.cons_ne_nil _ _

/-- No character begins with a quote. -/
theorem head?_quotedChar (c : Char) : (quotedChar c).head? ≠ some '"' := by
  unfold quotedChar
  split
  · next hplain =>
    rw [List.head?_cons, ne_eq, Option.some.injEq]
    rintro rfl
    exact absurd hplain (by decide)
  · exact nofun

theorem takesMany_quotedChar (cs rest : List Char) :
    TakesMany (plainBasic <|> escaped) (cs.flatMap quotedChar ++ '"' :: rest) cs ('"' :: rest) := by
  induction cs with
  | nil => exact .nil rfl
  | cons c cs ih =>
    rw [List.flatMap_cons, List.append_assoc]
    refine .cons (takes_quotedChar c _) ?_ ih
    have hpos := List.length_pos_iff.2 (quotedChar_ne_nil c)
    simp only [List.length_append]
    omega

theorem takes_basicString (s : String) (rest : List Char) :
    Takes basicString (quoted s ++ rest) s rest := by
  have htext : quoted s ++ rest = '"' :: (s.toList.flatMap quotedChar ++ '"' :: rest) := by
    rw [quoted, List.cons_append, List.append_assoc]
    rfl
  rw [htext]
  refine takes_char.bind ((takes_many (takesMany_quotedChar s.toList rest)).bind
    (takes_char.bind ?_))
  rw [String.ofList_toList]
  exact takes_pure

/-- Two quotes open a string over lines only if a third follows. -/
theorem multilineBasic_refuses (s : String) (hrest : rest.head? ≠ some '"') :
    multilineBasic (quoted s ++ rest) = none := by
  refine bind_refuses (word_refuses ?_)
  rw [String.toList_ofList, quoted, List.cons_append, List.cons_prefix_cons]
  rintro ⟨-, hprefix⟩
  -- the second quote ends an empty string, and no character of another begins with one
  cases hs : s.toList with
  | nil =>
    rw [hs] at hprefix
    obtain ⟨-, hthird⟩ := List.cons_prefix_cons.1 hprefix
    obtain ⟨tail, rfl⟩ := hthird
    exact hrest rfl
  | cons c cs =>
    rw [hs, List.flatMap_cons, List.append_assoc, List.append_assoc] at hprefix
    obtain ⟨d, ds, hd⟩ := List.exists_cons_of_ne_nil (quotedChar_ne_nil c)
    rw [hd] at hprefix
    have hhead := head?_quotedChar c
    rw [hd, List.head?_cons] at hhead
    exact hhead (congrArg some (List.cons_prefix_cons.1 hprefix).1.symm)

/-- **A string reads back as a value.** -/
theorem takes_value (s : String) (hrest : rest.head? ≠ some '"') :
    Takes (value maxDepth) (quoted s ++ rest) (.string s) rest := by
  have hstring : Takes anyString (quoted s ++ rest) s rest :=
    takes_orElse_of_refused (multilineBasic_refuses s hrest)
      ((takes_basicString s rest).orElse _)
  have hscalar : Takes scalar (quoted s ++ rest) (.string s) rest :=
    takes_peek.bind (hstring.map Value.string)
  exact takes_peek.bind hscalar

/-! ## Keys read back -/

/-- Whether a key needs no quotes for a character. -/
def isBare (c : Char) : Bool := c.isAlphanum || c == '_' || c == '-'

/-- A key that stands without quotes. -/
structure BareKey (key : String) : Prop where
  ne_nil : key.toList ≠ []
  bare : ∀ c ∈ key.toList, isBare c = true

theorem ne_of_isBare {c d : Char} (hc : isBare c = true) (hd : isBare d = false) : c ≠ d := by
  rintro rfl
  exact Bool.false_ne_true (hd.symm.trans hc)

theorem takes_blank (spaces : List Char) (hspaces : ∀ c ∈ spaces, (c == ' ' || c == '\t') = true)
    (hrest : ∀ c ∈ rest.head?, (c == ' ' || c == '\t') = false) :
    Takes blank (spaces ++ rest) () rest :=
  (takes_takeWhile hspaces hrest).bind takes_pure

namespace BareKey

variable (h : BareKey key)
include h

/-- A bare key begins with none of the marks. -/
theorem head?_ne (rest : List Char) {d : Char} (hd : isBare d = false) :
    (key.toList ++ rest).head? ≠ some d := by
  obtain ⟨c, cs, hcs⟩ := List.exists_cons_of_ne_nil h.ne_nil
  rw [hcs, List.cons_append, List.head?_cons, ne_eq, Option.some.injEq]
  exact ne_of_isBare (h.bare c (hcs ▸ List.mem_cons_self)) hd

theorem takes_blank_key (rest : List Char) :
    Takes blank (key.toList ++ rest) () (key.toList ++ rest) := by
  refine takes_blank [] nofun ?_
  intro c hc
  rw [Bool.or_eq_false_iff, beq_eq_false_iff_ne, beq_eq_false_iff_ne]
  constructor
  · rintro rfl
    exact h.head?_ne rest (by decide) hc
  · rintro rfl
    exact h.head?_ne rest (by decide) hc

theorem takes_simpleKey (hrest : ∀ c ∈ rest.head?, isBare c = false) :
    Takes simpleKey (key.toList ++ rest) key rest := by
  have hbasic : basicString (key.toList ++ rest) = none :=
    bind_refuses (char_refuses (h.head?_ne rest (by decide)))
  have hliteral : literalString (key.toList ++ rest) = none :=
    bind_refuses (char_refuses (h.head?_ne rest (by decide)))
  have hbare : Takes (takeWhile1 isBare) (key.toList ++ rest) key.toList rest :=
    takes_takeWhile1 h.ne_nil h.bare hrest
  have hkey := hbare.map String.ofList
  rw [String.ofList_toList] at hkey
  exact takes_orElse_of_refused hbasic (takes_orElse_of_refused hliteral hkey)

/-- The key of an entry, with the blank behind it. -/
theorem takes_splitKey (rest : List Char) :
    Takes splitKey (key.toList ++ ' ' :: '=' :: rest) ([], key) ('=' :: rest) := by
  have hsimple : Takes simpleKey (key.toList ++ ' ' :: '=' :: rest) key (' ' :: '=' :: rest) :=
    h.takes_simpleKey (by rintro c ⟨⟩; decide)
  have hblank : Takes blank (' ' :: '=' :: rest) () ('=' :: rest) :=
    takes_blank [' '] (List.forall_mem_singleton.2 rfl) (by rintro c ⟨⟩; decide)
  have hpart : Takes (do blank; let part ← simpleKey; blank; return part)
      (key.toList ++ ' ' :: '=' :: rest) key ('=' :: rest) :=
    (h.takes_blank_key _).bind (hsimple.bind (hblank.bind takes_pure))
  have hparts : Takes Toml.key (key.toList ++ ' ' :: '=' :: rest) [key] ('=' :: rest) := by
    refine (takes_sepBy1 hpart (.nil ?_)).bind ?_
    · exact bind_refuses (char_refuses nofun)
    · exact takes_pure
  exact hparts.bind takes_pure

/-- **An entry with a string reads back.** -/
theorem takes_entryStatement (s : String) :
    Takes entryStatement (key.toList ++ " = ".toList ++ quoted s) (.entry [] key (.string s)) [] := by
  have htext : key.toList ++ " = ".toList ++ quoted s =
      key.toList ++ ' ' :: '=' :: ([' '] ++ quoted s) := by
    rw [List.append_assoc]
    rfl
  have hblank : Takes blank ([' '] ++ quoted s) () (quoted s) :=
    takes_blank [' '] (List.forall_mem_singleton.2 rfl) (by rintro c ⟨⟩; decide)
  have hvalue : Takes (value maxDepth) (quoted s) (.string s) [] := by
    have hend : ([] : List Char).head? ≠ some '"' := nofun
    have htake := takes_value s hend
    rwa [List.append_nil] at htake
  rw [htext]
  exact (h.takes_splitKey _).bind (takes_char.bind (hblank.bind (hvalue.bind takes_pure)))

/-- A line that begins with a key is an entry. -/
theorem takes_line (s : String) :
    Takes line (key.toList ++ " = ".toList ++ quoted s) (some (.entry [] key (.string s))) [] := by
  have hentry := (h.takes_entryStatement s).map some
  have hend : Takes blank [] () [] := takes_blank [] nofun nofun
  have hcomment : Takes (optional comment) [] none [] := takes_optional_of_refused rfl
  rw [List.append_assoc] at hentry ⊢
  refine (h.takes_blank_key _).bind (takes_peek.bind ?_)
  dsimp only
  -- a bare key begins with no mark of another kind of line
  split
  · next heq =>
    obtain ⟨c, cs, hcs⟩ := List.exists_cons_of_ne_nil h.ne_nil
    rw [hcs] at heq
    cases heq
  · next heq => exact absurd heq (h.head?_ne _ (by decide))
  · next heq => exact absurd heq (h.head?_ne _ (by decide))
  · next heq => exact absurd heq (h.head?_ne _ (by decide))
  · next heq => exact absurd heq (h.head?_ne _ (by decide))
  · exact hentry.bind (hend.bind (hcomment.bind takes_pure))

end BareKey

/-- **A line that gives a key a string** is a document with that entry. -/
theorem ofString?_stringEntry (h : BareKey key) (s : String) :
    ofString? (stringEntry key s) = some [(key, .string s)] := by
  have hline := h.takes_line s
  have hmark : Takes (optional (char '\ufeff')) (key.toList ++ " = ".toList ++ quoted s) none
      (key.toList ++ " = ".toList ++ quoted s) := by
    refine takes_optional_of_refused (char_refuses ?_)
    rw [List.append_assoc]
    exact h.head?_ne _ (by decide)
  have hstatements : Takes statements (key.toList ++ " = ".toList ++ quoted s)
      [.entry [] key (.string s)] [] :=
    hmark.bind ((takes_sepBy1 hline (.nil rfl)).bind takes_pure)
  rw [ofString?, stringEntry, String.toList_ofList, hstatements.run?_eq]
  rfl

end Toml

end CallDescriptor
