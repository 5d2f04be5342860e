import Mathlib.Data.List.Nodup
import CallDescriptor.Toml.Document
/-!
# The keys of a document differ

No key is given twice in the table that a document stands for
(`nodup_keys_of_ofString?`). An entry is added only where its key is new, and
a table that is moved behind the others leaves its place first. Below the
document itself a statement changes what is under a key and not the keys, so
the way to a nested table needs no look at what happens at its end.
-/

namespace CallDescriptor

namespace Toml

variable {key : String} {entries entries' : Entries}

/-! ## Entries -/

namespace Entries

theorem get?_eq_none_iff : get? entries key = none ↔ key ∉ entries.map Prod.fst := by
  unfold get?
  rw [Option.map_eq_none_iff, List.find?_eq_none, List.mem_map, not_exists]
  refine forall_congr' fun e => ?_
  rw [not_and, beq_iff_eq]

theorem nodup_keys_append {node : Node} (hkeys : (entries.map Prod.fst).Nodup)
    (hnew : key ∉ entries.map Prod.fst) : ((entries ++ [(key, node)]).map Prod.fst).Nodup := by
  rw [List.map_append]
  refine hkeys.append (List.nodup_singleton key) ?_
  rwa [List.map_singleton, List.disjoint_singleton]

/-- What is in its place already is replaced under the same key. -/
theorem keys_put {old : Node} (h : get? entries key = some old) (node : Node) :
    (put key node entries).map Prod.fst = entries.map Prod.fst := by
  induction entries with
  | nil => cases h
  | cons e rest ih =>
    obtain ⟨k, n⟩ := e
    rw [put]
    split
    · next hk =>
      obtain rfl := hk
      rfl
    · next hk =>
      have hrest : get? ((k, n) :: rest) key = get? rest key :=
        congrArg (Option.map _) (List.find?_cons_of_neg (mt beq_iff_eq.1 hk))
      rw [List.map_cons, List.map_cons, ih (hrest ▸ h)]

theorem not_mem_keys_erase : key ∉ (erase key entries).map Prod.fst := by
  rw [List.mem_map]
  rintro ⟨e, he, rfl⟩
  have hne := (List.mem_filter.1 he).2
  rw [bne_self_eq_false] at hne
  exact absurd hne Bool.false_ne_true

theorem nodup_keys_erase (hkeys : (entries.map Prod.fst).Nodup) (key : String) :
    ((erase key entries).map Prod.fst).Nodup :=
  hkeys.sublist (List.filter_sublist.map Prod.fst)

end Entries

/-! ## Tables inside -/

variable {dotted : Bool} {change : Origin → Entries → Option Entries} {path : List String}
  {origin : Origin}

/-- A change further down a path adds a table at most, or puts one in the place
of what is there. -/
theorem of_alterAt_cons_eq_some
    (h : Node.alterAt dotted change (key :: path) origin entries = some entries') :
    (Entries.get? entries key = none ∧ ∃ node, entries' = entries ++ [(key, node)]) ∨
      ∃ old node, Entries.get? entries key = some old ∧
        entries' = Entries.put key node entries := by
  rw [Node.alterAt] at h
  cases hget : Entries.get? entries key with
  | none =>
    rw [hget] at h
    obtain ⟨inner, -, hadded⟩ := Option.bind_eq_some_iff.1 h
    exact .inl ⟨rfl, _, (Option.some.inj hadded).symm⟩
  | some old =>
    -- whatever is there, a success ends with putting the changed one in its place
    have hput {changed : Option Node}
        (h : (changed.bind fun node => some (Entries.put key node entries)) = some entries') :
        ∃ node, entries' = Entries.put key node entries := by
      obtain ⟨node, -, hnode⟩ := Option.bind_eq_some_iff.1 h
      exact ⟨node, (Option.some.inj hnode).symm⟩
    rw [hget] at h
    refine .inr ⟨old, ?_⟩
    cases old with
    | value v => cases h
    | table origin inner =>
      dsimp only at h
      split at h
      · cases h
      · obtain ⟨inner', -, h⟩ := Option.bind_eq_some_iff.1 h
        obtain ⟨node, hnode⟩ := hput h
        exact ⟨node, rfl, hnode⟩
    | tables elements =>
      dsimp only at h
      split at h
      · obtain ⟨last, -, h⟩ := Option.bind_eq_some_iff.1 h
        obtain ⟨node, hnode⟩ := hput h
        exact ⟨node, rfl, hnode⟩
      · cases h

/-- So it keeps keys apart, whatever it is. -/
theorem nodup_keys_alterAt_cons (hkeys : (entries.map Prod.fst).Nodup)
    (h : Node.alterAt dotted change (key :: path) origin entries = some entries') :
    (entries'.map Prod.fst).Nodup := by
  rcases of_alterAt_cons_eq_some h with ⟨hnone, node, rfl⟩ | ⟨old, node, hold, rfl⟩
  · exact Entries.nodup_keys_append hkeys (Entries.get?_eq_none_iff.1 hnone)
  · rwa [Entries.keys_put hold]

theorem nodup_keys_addValue {v : Value} (hkeys : (entries.map Prod.fst).Nodup)
    (h : Node.addValue path key v origin entries = some entries') :
    (entries'.map Prod.fst).Nodup := by
  cases path with
  | cons k path => exact nodup_keys_alterAt_cons hkeys h
  | nil =>
    rw [Node.addValue, Node.alterAt] at h
    split at h
    · cases h
    · split at h
      · cases h
      · next hnew =>
        obtain rfl := Option.some.inj h
        rw [Option.not_isSome_iff_eq_none] at hnew
        exact Entries.nodup_keys_append hkeys (Entries.get?_eq_none_iff.1 hnew)

/-! ## Documents under construction -/

/-- The keys of a draft differ where they are keys of the document, and a table
at hand can go back to its place. -/
structure Draft.KeysDiffer (d : Draft) : Prop where
  placed : (d.placed.map Prod.fst).Nodup
  atHand : d.place = .document → (d.atHand.map Prod.fst).Nodup
  free : ∀ key, d.place = .table [] key → key ∉ d.placed.map Prod.fst

namespace Draft

variable {d d' : Draft}

theorem KeysDiffer.settle (hd : d.KeysDiffer) (h : d.settle = some entries) :
    (entries.map Prod.fst).Nodup := by
  unfold Draft.settle at h
  split at h
  · next hplace =>
    obtain rfl := Option.some.inj h
    exact hd.atHand hplace
  · next path key hplace =>
    cases path with
    | cons k path => exact nodup_keys_alterAt_cons hd.placed h
    | nil =>
      obtain rfl := Option.some.inj h
      exact Entries.nodup_keys_append hd.placed (hd.free key hplace)
  · next path key hplace =>
    cases path with
    | cons k path => exact nodup_keys_alterAt_cons hd.placed h
    | nil =>
      rw [Node.alterAt] at h
      split at h
      · next hold =>
        obtain rfl := Option.some.inj h
        rw [Entries.keys_put hold]
        exact hd.placed
      · cases h

theorem keysDiffer_openTable (hkeys : (entries.map Prod.fst).Nodup)
    (h : openTable path key entries = some d) : d.KeysDiffer := by
  obtain ⟨atHand, -, h⟩ := Option.bind_eq_some_iff.1 h
  obtain ⟨placed, hplaced, h⟩ := Option.bind_eq_some_iff.1 h
  obtain rfl := Option.some.inj h
  cases path with
  | cons k path => exact ⟨nodup_keys_alterAt_cons hkeys hplaced, nofun, nofun⟩
  | nil =>
    obtain rfl := Option.some.inj hplaced
    refine ⟨Entries.nodup_keys_erase hkeys key, nofun, fun key' hplace => ?_⟩
    obtain ⟨-, rfl⟩ := Place.table.inj hplace
    exact Entries.not_mem_keys_erase

theorem keysDiffer_openElement (hkeys : (entries.map Prod.fst).Nodup)
    (h : openElement path key entries = some d) : d.KeysDiffer := by
  obtain ⟨placed, hplaced, h⟩ := Option.bind_eq_some_iff.1 h
  obtain rfl := Option.some.inj h
  refine ⟨?_, nofun, nofun⟩
  cases path with
  | cons k path => exact nodup_keys_alterAt_cons hkeys hplaced
  | nil =>
    rw [Node.alterAt] at hplaced
    split at hplaced
    · next hnone =>
      obtain rfl := Option.some.inj hplaced
      exact Entries.nodup_keys_append hkeys (Entries.get?_eq_none_iff.1 hnone)
    · obtain rfl := Option.some.inj hplaced
      exact hkeys
    · cases hplaced

/-- **A statement keeps keys apart.** -/
theorem KeysDiffer.step {statement : Statement} (hd : d.KeysDiffer)
    (h : d.step statement = some d') : d'.KeysDiffer := by
  cases statement with
  | entry path key v =>
    obtain ⟨atHand, hadded, h⟩ := Option.bind_eq_some_iff.1 h
    obtain rfl := Option.some.inj h
    exact ⟨hd.placed, fun hplace => nodup_keys_addValue (hd.atHand hplace) hadded, hd.free⟩
  | header path key =>
    obtain ⟨placed, hplaced, h⟩ := Option.bind_eq_some_iff.1 h
    exact keysDiffer_openTable (hd.settle hplaced) h
  | elementHeader path key =>
    obtain ⟨placed, hplaced, h⟩ := Option.bind_eq_some_iff.1 h
    exact keysDiffer_openElement (hd.settle hplaced) h

theorem KeysDiffer.foldlM {statements : List Statement} (hd : d.KeysDiffer)
    (h : statements.foldlM Draft.step d = some d') : d'.KeysDiffer := by
  induction statements generalizing d with
  | nil =>
    obtain rfl := Option.some.inj h
    exact hd
  | cons statement statements ih =>
    rw [List.foldlM_cons] at h
    obtain ⟨next, hnext, h⟩ := Option.bind_eq_some_iff.1 h
    exact ih (hd.step hnext) h

end Draft

/-! ## Documents -/

theorem keys_toTable (entries : Entries) :
    (Node.toTable entries).map Prod.fst = entries.map Prod.fst := by
  induction entries with
  | nil => rfl
  | cons e rest ih =>
    obtain ⟨key, node⟩ := e
    rw [Node.toTable, List.map_cons, List.map_cons, ih]

/-- **The keys of a document differ.** -/
theorem nodup_keys_of_ofString? {text : String} {table : Table} (h : ofString? text = some table) :
    (table.map Prod.fst).Nodup := by
  obtain ⟨statements, -, h⟩ := Option.bind_eq_some_iff.1 h
  obtain ⟨d, hd, h⟩ := Option.bind_eq_some_iff.1 h
  obtain ⟨entries, hentries, h⟩ := Option.bind_eq_some_iff.1 h
  obtain rfl := Option.some.inj h
  have hempty : Draft.KeysDiffer {} := ⟨List.nodup_nil, fun _ => List.nodup_nil, nofun⟩
  rw [keys_toTable]
  exact (hempty.foldlM hd).settle hentries

end Toml

end CallDescriptor
