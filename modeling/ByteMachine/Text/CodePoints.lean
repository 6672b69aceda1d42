/-
**Sets of characters given by ranges of code points.**

`inRanges` tells whether a character's code point lies in one of the ranges of a list; the
character classes of this library are such lists.
-/

namespace ByteMachine.Text

/-- A character's code point lies in one of the ranges, both ends included. -/
def inRanges (ranges : List (Nat × Nat)) (char : Char) : Bool :=
  ranges.any fun range => range.1 ≤ char.toNat && char.toNat ≤ range.2

theorem inRanges_iff {ranges : List (Nat × Nat)} {char : Char} :
    inRanges ranges char = true ↔
      ∃ range ∈ ranges, range.1 ≤ char.toNat ∧ char.toNat ≤ range.2 := by
  simp [inRanges]

end ByteMachine.Text
