namespace RecordStore.Text

/-!
# Sets of characters given by ranges

A `CodeRange` is a pair of code points, both ends included.
-/

abbrev CodeRange := Nat × Nat

def within (ranges : List CodeRange) (c : Char) : Bool :=
  ranges.any fun range ↦ range.1 ≤ c.toNat && c.toNat ≤ range.2

theorem within_eq_true_iff {ranges : List CodeRange} {c : Char} :
    within ranges c = true ↔ ∃ range ∈ ranges, range.1 ≤ c.toNat ∧ c.toNat ≤ range.2 := by
  simp [within]

end RecordStore.Text
