/-!
# Range tables

A set of characters is given as an array of closed code point ranges, in
ascending order.
-/

namespace PageFilters.Text

/-- Closed code point ranges, in ascending order. -/
abbrev RangeTable := Array (Nat × Nat)

/-- Whether some range of the table holds the code point. -/
def RangeTable.holds (table : RangeTable) (point : Nat) : Bool :=
  table.any fun range => range.1 ≤ point && point ≤ range.2

theorem RangeTable.holds_iff {table : RangeTable} {point : Nat} :
    table.holds point = true ↔ ∃ range ∈ table, range.1 ≤ point ∧ point ≤ range.2 := by
  rw [RangeTable.holds, Array.any_eq_true']
  simp

end PageFilters.Text
