/-
**The flags register.**

Three of its bits are used, and a comparison sets exactly one of them:

    00000LGE
         ||`-- equal
         |`--- greater
         `---- less

The flags start as `clear` and change only by `compare`. `compare_cases` says what a comparison
finds; `equal_compare`, `greater_compare` and `less_compare` read it back.
-/

namespace ByteMachine

/-- The flags register, kept as its raw byte. -/
structure Flags where
  bits : UInt8
  deriving DecidableEq, Repr

namespace Flags

/-- No flag is set: the value at boot. -/
def clear : Flags := ⟨0⟩

/-- The flags after comparing the first value against the second. -/
def compare (first second : UInt8) : Flags :=
  if first = second then ⟨1⟩ else if second < first then ⟨2⟩ else ⟨4⟩

/-- The lowest bit: the last comparison found equal values. -/
def equal (flags : Flags) : Bool := flags.bits &&& 1 != 0

/-- The second bit: the last comparison found the first value greater. -/
def greater (flags : Flags) : Bool := flags.bits &&& 2 != 0

/-- The third bit: the last comparison found the first value less. -/
def less (flags : Flags) : Bool := flags.bits &&& 4 != 0

/-- **A comparison finds one of three orders**, and sets the bit of that one. -/
theorem compare_cases (first second : UInt8) :
    first = second ∧ compare first second = ⟨1⟩ ∨
      second < first ∧ compare first second = ⟨2⟩ ∨
      first < second ∧ compare first second = ⟨4⟩ := by
  unfold compare
  by_cases same : first = second
  · exact .inl ⟨same, if_pos same⟩
  · rw [if_neg same]
    by_cases above : second < first
    · exact .inr (.inl ⟨above, if_pos above⟩)
    · have below : first < second := UInt8.lt_of_le_of_ne (UInt8.not_lt.mp above) same
      exact .inr (.inr ⟨below, if_neg above⟩)

theorem equal_compare (first second : UInt8) :
    (compare first second).equal = decide (first = second) := by
  obtain ⟨same, found⟩ | ⟨above, found⟩ | ⟨below, found⟩ := compare_cases first second
  · rw [found, decide_eq_true same]
    rfl
  · rw [found, decide_eq_false (UInt8.ne_of_lt above).symm]
    rfl
  · rw [found, decide_eq_false (UInt8.ne_of_lt below)]
    rfl

theorem greater_compare (first second : UInt8) :
    (compare first second).greater = decide (second < first) := by
  obtain ⟨rfl, found⟩ | ⟨above, found⟩ | ⟨below, found⟩ := compare_cases first second
  · rw [found, decide_eq_false (UInt8.lt_irrefl first)]
    rfl
  · rw [found, decide_eq_true above]
    rfl
  · rw [found, decide_eq_false (UInt8.lt_asymm below)]
    rfl

theorem less_compare (first second : UInt8) :
    (compare first second).less = decide (first < second) := by
  obtain ⟨rfl, found⟩ | ⟨above, found⟩ | ⟨below, found⟩ := compare_cases first second
  · rw [found, decide_eq_false (UInt8.lt_irrefl first)]
    rfl
  · rw [found, decide_eq_false (UInt8.lt_asymm above)]
    rfl
  · rw [found, decide_eq_true below]
    rfl

end Flags

end ByteMachine
