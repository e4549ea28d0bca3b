import ColonForth.Text.Basic

/-!
# Tables of code points

A class of characters is written down as the list of its maximal intervals of code points, in
increasing order.  A look-up walks the list only as far as the first interval that does not end
below the character, which is the one interval that can hold it.
-/

namespace ColonForth

/-- An interval of code points, both ends included. -/
structure CodeRange where
  /-- The least code point. -/
  first : Nat
  /-- The greatest code point. -/
  last : Nat
deriving DecidableEq, Repr

namespace CodeRange

/-- Whether one of the intervals, which are given in increasing order, holds the character. -/
def covers (table : List CodeRange) (c : Char) : Bool :=
  match table.find? (fun r => c.toNat ≤ r.last) with
  | some r => r.first ≤ c.toNat
  | none => false

/-- A covered character lies in an interval of the table. -/
theorem exists_of_covers {table : List CodeRange} {c : Char} (h : covers table c = true) :
    ∃ r ∈ table, r.first ≤ c.toNat ∧ c.toNat ≤ r.last := by
  unfold covers at h
  split at h
  · next r hr =>
    refine ⟨r, List.mem_of_find?_eq_some hr, by simpa using h, ?_⟩
    simpa using List.find?_some hr
  · exact absurd h (by simp)

end CodeRange

end ColonForth
