/-
**Bytes and code points in base sixteen.**

* `Hex.byte`: a byte as two lower-case digits, the form of every address in a message;
* `Hex.upperByte`: a byte as two upper-case digits, the form of a trace line;
* `Hex.number`: a number with as many lower-case digits as it needs.

Both two-digit forms determine the byte (`byte_injective`, `upperByte_injective`).
-/

namespace ByteMachine.Text.Hex

/-! ### Two digits -/

/-- The two lower-case digits of a byte, the high one first. -/
def byte (value : UInt8) : String :=
  String.ofList [Nat.digitChar (value.toNat / 16), Nat.digitChar (value.toNat % 16)]

/-- The two upper-case digits of a byte, the high one first. -/
def upperByte (value : UInt8) : String :=
  String.ofList
    [(Nat.digitChar (value.toNat / 16)).toUpper, (Nat.digitChar (value.toNat % 16)).toUpper]

/-- A byte as it stands in a message: `0x` and two lower-case digits. -/
def literal (value : UInt8) : String := "0x" ++ byte value

/-- Bytes in upper case, one blank between two of them. -/
def spaced (values : List UInt8) : String := " ".intercalate (values.map upperByte)

theorem length_byte (value : UInt8) : (byte value).length = 2 := by
  simp [byte]

theorem length_upperByte (value : UInt8) : (upperByte value).length = 2 := by
  simp [upperByte]

/-- Two bytes with the same lower-case digits are the same byte. -/
theorem byte_injective {first second : UInt8} (same : byte first = byte second) :
    first = second := by
  have digits : ∀ left right : Fin 16,
      Nat.digitChar left.val = Nat.digitChar right.val → left = right := by decide
  simp only [byte, String.ofList_inj, List.cons.injEq, and_true] at same
  have high := congrArg Fin.val (digits ⟨first.toNat / 16, by have := first.toNat_lt; omega⟩
    ⟨second.toNat / 16, by have := second.toNat_lt; omega⟩ same.1)
  have low := congrArg Fin.val (digits ⟨first.toNat % 16, by omega⟩
    ⟨second.toNat % 16, by omega⟩ same.2)
  apply UInt8.toNat_inj.mp
  simp only at high low
  omega

/-- Two bytes with the same upper-case digits are the same byte. -/
theorem upperByte_injective {first second : UInt8} (same : upperByte first = upperByte second) :
    first = second := by
  have digits : ∀ left right : Fin 16,
      (Nat.digitChar left.val).toUpper = (Nat.digitChar right.val).toUpper → left = right := by
    decide
  simp only [upperByte, String.ofList_inj, List.cons.injEq, and_true] at same
  have high := congrArg Fin.val (digits ⟨first.toNat / 16, by have := first.toNat_lt; omega⟩
    ⟨second.toNat / 16, by have := second.toNat_lt; omega⟩ same.1)
  have low := congrArg Fin.val (digits ⟨first.toNat % 16, by omega⟩
    ⟨second.toNat % 16, by omega⟩ same.2)
  apply UInt8.toNat_inj.mp
  simp only at high low
  omega

/-! ### As many digits as needed -/

/-- A number in lower-case digits without leading zeros. -/
def number (value : Nat) : String := String.ofList (Nat.toDigits 16 value)

end ByteMachine.Text.Hex
