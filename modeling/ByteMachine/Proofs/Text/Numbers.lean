/-
**Numbers in a text, read back.**

* `all_toDigits`: what holds of all digits of a base holds of every character of a number.
* `ofDigitChars_toString`: a number is what its decimal digits write, so they determine it
  (`decimal_injective`).
* `append_inj_of_length`: a text in columns is determined column by column.
* `literal_injective`, `spaced_injective`: so bytes in hex are, one by one or in a row, since each
  of them takes two columns.
-/

import ByteMachine.Text.Hex

namespace ByteMachine.Text

/-! ### Digits of any base -/

/-- What holds of all digits of a base holds of every character of a number. -/
theorem all_toDigits {base : Nat} (large : 1 < base) {holds : Char → Bool}
    (digits : ∀ digit < base, holds (Nat.digitChar digit) = true) (number : Nat) :
    (Nat.toDigits base number).all holds = true := by
  induction number using Nat.strongRecOn with
  | ind number ih =>
    by_cases small : number < base
    · rw [Nat.toDigits_of_lt_base small, List.all_cons, digits number small]
      rfl
    · have earlier := ih (number / base) (Nat.div_lt_self (by omega) large)
      have last := digits (number % base) (Nat.mod_lt number (by omega))
      rw [Nat.toDigits_of_base_le large (Nat.le_of_not_lt small), List.all_append, earlier,
        List.all_cons, last]
      rfl

/-! ### Decimal digits -/

theorem isDigit_of_mem_toString {number : Nat} {char : Char}
    (found : char ∈ (toString number).toList) : char.isDigit = true := by
  rw [Nat.toString_eq_ofList_toDigits, String.toList_ofList] at found
  exact Nat.isDigit_of_mem_toDigits (by decide) (by decide) found

/-- A number is what its decimal digits write. -/
theorem ofDigitChars_toString (number : Nat) :
    Nat.ofDigitChars 10 (toString number).toList 0 = number := by
  rw [Nat.toString_eq_ofList_toDigits, String.toList_ofList, Nat.ofDigitChars_ten_toDigits]

theorem decimal_injective {first second : Nat} (same : toString first = toString second) :
    first = second := by
  rw [← ofDigitChars_toString first, same, ofDigitChars_toString]

/-! ### Columns -/

theorem append_inj_of_length {first second rest behind : String}
    (same : first ++ rest = second ++ behind) (length : first.length = second.length) :
    first = second ∧ rest = behind := by
  have characters := congrArg String.toList same
  rw [String.toList_append, String.toList_append] at characters
  obtain ⟨front, back⟩ :=
    List.append_inj characters (by rwa [String.length_toList, String.length_toList])
  exact ⟨String.toList_inj.mp front, String.toList_inj.mp back⟩

namespace Hex

theorem length_literal (value : UInt8) : (literal value).length = 4 := by
  rw [literal, String.length_append, length_byte]
  rfl

theorem literal_injective {first second : UInt8} (same : literal first = literal second) :
    first = second :=
  byte_injective (append_inj_of_length same rfl).2

theorem spaced_cons_cons (value next : UInt8) (rest : List UInt8) :
    spaced (value :: next :: rest) = upperByte value ++ (" " ++ spaced (next :: rest)) := by
  rw [spaced, List.map_cons, List.map_cons, String.intercalate_cons_cons, String.append_assoc]
  rfl

/-- Two columns for each byte, and one between two of them. -/
theorem length_spaced (values : List UInt8) :
    (spaced values).length = 3 * values.length - 1 := by
  induction values with
  | nil => rfl
  | cons value rest ih =>
    cases rest with
    | nil =>
      rw [spaced, List.map_singleton, String.intercalate_singleton, length_upperByte]
      rfl
    | cons next rest =>
      have blank : " ".length = 1 := rfl
      rw [spaced_cons_cons, String.length_append, String.length_append, length_upperByte, ih, blank]
      simp only [List.length_cons]
      omega

/-- As many bytes in a row are determined by their digits. -/
theorem spaced_injective {values others : List UInt8} (length : values.length = others.length)
    (same : spaced values = spaced others) : values = others := by
  induction values generalizing others with
  | nil => exact (List.eq_nil_of_length_eq_zero length.symm).symm
  | cons value rest ih =>
    obtain ⟨other, behind, rfl⟩ := List.exists_cons_of_length_pos
      (show 0 < others.length by rw [← length, List.length_cons]; omega)
    have shorter : rest.length = behind.length := Nat.succ.inj length
    cases rest with
    | nil =>
      obtain rfl := List.eq_nil_of_length_eq_zero shorter.symm
      simp only [spaced, List.map_singleton, String.intercalate_singleton] at same
      rw [upperByte_injective same]
    | cons next rest =>
      obtain ⟨following, behind, rfl⟩ := List.exists_cons_of_length_pos
        (show 0 < behind.length by rw [← shorter, List.length_cons]; omega)
      rw [spaced_cons_cons, spaced_cons_cons] at same
      obtain ⟨digits, row⟩ := append_inj_of_length same
        ((length_upperByte value).trans (length_upperByte other).symm)
      rw [upperByte_injective digits, ih shorter (append_inj_of_length row rfl).2]

end Hex

end ByteMachine.Text
