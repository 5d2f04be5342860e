import CallDescriptor.Number.Shortest
/-!
# TOML values

What a settings file says, without the way in which it says it: a table is a
table whether it was written under a header, by dotted keys or in one line.
Only an array of tables that has a header for each of them is kept apart from
one in brackets, since they are not refused in the same words. The entries of
a table keep the order in which they came to be.
-/

namespace CallDescriptor

namespace Toml

/-- A TOML value. -/
inductive Value where
  | string (s : String)
  | integer (i : Int)
  | real (x : Binary64)
  | boolean (b : Bool)
  /-- A date, a time or both, as written. -/
  | datetime (text : String)
  /-- An array in brackets. -/
  | array (items : List Value)
  /-- An array of tables, each with a header of its own. -/
  | tables (elements : List (List (String × Value)))
  | table (entries : List (String × Value))
  deriving Repr

/-- The entries of a table in order. -/
abbrev Table := List (String × Value)

/-! ## Equality -/

mutual

/-- Whether two values are the same. -/
def Value.same : Value → Value → Bool
  | .string s, .string t => s == t
  | .integer i, .integer j => i == j
  | .real x, .real y => x == y
  | .boolean b, .boolean c => b == c
  | .datetime s, .datetime t => s == t
  | .array vs, .array ws => sameItems vs ws
  | .tables ts, .tables us => sameTables ts us
  | .table es, .table fs => sameEntries es fs
  | _, _ => false

/-- The same for the items of two arrays. -/
def sameItems : List Value → List Value → Bool
  | [], [] => true
  | v :: vs, w :: ws => v.same w && sameItems vs ws
  | _, _ => false

/-- The same for the entries of two tables. -/
def sameEntries : List (String × Value) → List (String × Value) → Bool
  | [], [] => true
  | (k, v) :: es, (l, w) :: fs => k == l && v.same w && sameEntries es fs
  | _, _ => false

/-- The same for tables in a row. -/
def sameTables : List (List (String × Value)) → List (List (String × Value)) → Bool
  | [], [] => true
  | t :: ts, u :: us => sameEntries t u && sameTables ts us
  | _, _ => false

end

mutual

/-- **What is found to be the same is equal**, and the other way round. -/
theorem Value.same_iff : ∀ v w : Value, v.same w = true ↔ v = w
  | .string s, w => by cases w <;> simp [Value.same]
  | .integer i, w => by cases w <;> simp [Value.same]
  | .real x, w => by cases w <;> simp [Value.same]
  | .boolean b, w => by cases w <;> simp [Value.same]
  | .datetime s, w => by cases w <;> simp [Value.same]
  | .array vs, w => by cases w <;> simp [Value.same, sameItems_iff vs]
  | .tables ts, w => by cases w <;> simp [Value.same, sameTables_iff ts]
  | .table es, w => by cases w <;> simp [Value.same, sameEntries_iff es]

theorem sameItems_iff : ∀ vs ws : List Value, sameItems vs ws = true ↔ vs = ws
  | [], ws => by cases ws <;> simp [sameItems]
  | v :: vs, ws => by cases ws <;> simp [sameItems, v.same_iff, sameItems_iff vs]

theorem sameEntries_iff : ∀ es fs : List (String × Value), sameEntries es fs = true ↔ es = fs
  | [], fs => by cases fs <;> simp [sameEntries]
  | (k, v) :: es, [] => by simp [sameEntries]
  | (k, v) :: es, (l, w) :: fs => by simp [sameEntries, v.same_iff w, sameEntries_iff es fs]

theorem sameTables_iff : ∀ ts us : List (List (String × Value)), sameTables ts us = true ↔ ts = us
  | [], us => by cases us <;> simp [sameTables]
  | t :: ts, us => by cases us <;> simp [sameTables, sameEntries_iff t, sameTables_iff ts]

end

instance : DecidableEq Value := fun v w => decidable_of_iff _ (v.same_iff w)

end Toml

end CallDescriptor
