/-!
# Character ranges

A property of characters is kept as an ascending table of code point ranges. This module holds the
membership test shared by the tables of printable, cased and case-ignorable characters.
-/

namespace TableQueue.Text

/-- Both ends of a range belong to it. -/
def inRanges (table : List (Nat × Nat)) (codePoint : Nat) : Bool :=
  table.any fun range ↦ range.1 ≤ codePoint && codePoint ≤ range.2

theorem inRanges_iff (table : List (Nat × Nat)) (codePoint : Nat) :
    inRanges table codePoint = true ↔
      ∃ range ∈ table, range.1 ≤ codePoint ∧ codePoint ≤ range.2 := by
  simp [inRanges]

end TableQueue.Text
