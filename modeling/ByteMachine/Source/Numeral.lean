/-
**Bytes written in base two.**

A numeral is an optional plus sign and one or more binary digits whose value fits in a byte; any
number of leading zeros is allowed. `read?_eq_some_iff` says which texts are read, and as what.
-/

namespace ByteMachine.Source.Numeral

/-- The character is a binary digit. -/
def isBit (char : Char) : Bool := char == '0' || char == '1'

/-- The value of binary digits, the highest first. -/
def value (digits : List Char) : Nat :=
  digits.foldl (fun total digit => 2 * total + if digit = '1' then 1 else 0) 0

/-- The numeral without its plus sign, if it has one. -/
def unsigned : List Char → List Char
  | [] => []
  | char :: rest => if char = '+' then rest else char :: rest

/-- The byte that a numeral stands for, if it is one. -/
def read? (numeral : List Char) : Option UInt8 :=
  let digits := unsigned numeral
  if digits ≠ [] ∧ digits.all isBit ∧ value digits ≤ 255 then
    some (UInt8.ofNat (value digits))
  else none

/-- A numeral is read exactly when digits follow its sign and their value is a byte. -/
theorem read?_eq_some_iff {numeral : List Char} {byte : UInt8} :
    read? numeral = some byte ↔
      unsigned numeral ≠ [] ∧ (∀ digit ∈ unsigned numeral, isBit digit = true) ∧
        value (unsigned numeral) = byte.toNat := by
  unfold read?
  simp only [List.all_eq_true]
  constructor
  · intro found
    split at found
    · rename_i fits
      refine ⟨fits.1, fits.2.1, ?_⟩
      rw [← Option.some.inj found, UInt8.toNat_ofNat']
      omega
    · cases found
  · rintro ⟨nonempty, bits, same⟩
    rw [if_pos ⟨nonempty, bits, by rw [same]; exact Nat.le_of_lt_succ byte.toNat_lt⟩, same,
      UInt8.ofNat_toNat]

end ByteMachine.Source.Numeral
