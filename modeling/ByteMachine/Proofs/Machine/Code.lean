/-
**Code that stands in memory.**

`Ram.Holds` says that some bytes stand in memory from an address on; past the end of memory they go
on at its start.

* `holds_append`: one piece of code stands behind another. `Holds.congr`: only its own cells matter.
* `fetch?_of_holds`: **the instruction of an opcode with its operands is fetched where they stand.**
* `holds_overlay`: a program stands where it is loaded.
-/

import ByteMachine.Proofs.Machine.Footprint

namespace ByteMachine

/-- The bytes stand in memory from the address on. -/
def Ram.Holds (ram : Ram) (address : UInt8) (bytes : List UInt8) : Prop :=
  ∀ index (bound : index < bytes.length), ram.get (address + UInt8.ofNat index) = bytes[index]

instance (ram : Ram) (address : UInt8) (bytes : List UInt8) :
    Decidable (ram.Holds address bytes) :=
  inferInstanceAs (Decidable (∀ index (_ : index < bytes.length), _ = _))

variable {ram other : Ram} {address : UInt8} {first second bytes operands : List UInt8}

/-- An address further on, in two strides. -/
theorem add_ofNat_add (address : UInt8) (first second : Nat) :
    address + UInt8.ofNat (first + second) =
      address + UInt8.ofNat first + UInt8.ofNat second := by
  rw [UInt8.ofNat_add, UInt8.add_assoc]

theorem holds_append :
    ram.Holds address (first ++ second) ↔
      ram.Holds address first ∧ ram.Holds (address + UInt8.ofNat first.length) second := by
  constructor
  · intro holds
    refine ⟨fun index bound => ?_, fun index bound => ?_⟩
    · rw [holds index (by rw [List.length_append]; omega), List.getElem_append_left bound]
    · rw [← add_ofNat_add, holds (first.length + index) (by rw [List.length_append]; omega),
        List.getElem_append_right (Nat.le_add_right _ _)]
      simp only [Nat.add_sub_cancel_left]
  · rintro ⟨front, back⟩ index bound
    rw [List.length_append] at bound
    by_cases inside : index < first.length
    · rw [front index inside, List.getElem_append_left inside]
    · have behind : first.length + (index - first.length) = index := by omega
      rw [List.getElem_append_right (Nat.le_of_not_lt inside),
        ← back (index - first.length) (by omega), ← add_ofNat_add, behind]

/-- Memory that is the same in the cells of the bytes holds them as well. -/
theorem Ram.Holds.congr (holds : ram.Holds address bytes)
    (same : ∀ index < bytes.length,
      other.get (address + UInt8.ofNat index) = ram.get (address + UInt8.ofNat index)) :
    other.Holds address bytes :=
  fun index bound => (same index bound).trans (holds index bound)

/-- **The instruction of an opcode with its operands is fetched where they stand.** -/
theorem fetch?_of_holds {opcode : Opcode} (holds : ram.Holds address (opcode.byte :: operands))
    (full : opcode.operandCount.toNat = operands.length) :
    ram.fetch? address =
      some (opcode.withOperands (operands[0]?.getD 0) (operands[1]?.getD 0)) := by
  have code : ram.get address = opcode.byte := by
    have here := holds 0 (Nat.zero_lt_succ _)
    rwa [show UInt8.ofNat 0 = 0 from rfl, UInt8.add_zero] at here
  have operand : ∀ entry ∈ opcode.operands.zipIdx 1,
      ram.get (address + UInt8.ofNat entry.2) = operands[entry.2 - 1]?.getD 0 := by
    rintro ⟨use, offset⟩ found
    obtain ⟨positive, below, -⟩ := List.mem_zipIdx found
    rw [Opcode.length_operands, full] at below
    obtain ⟨index, rfl⟩ : ∃ index, offset = index + 1 := ⟨offset - 1, by omega⟩
    have inside : index < operands.length := by omega
    rw [holds (index + 1) (Nat.succ_lt_succ inside), List.getElem_cons_succ, Nat.add_sub_cancel,
      List.getElem?_eq_getElem inside, Option.getD_some]
  rw [Ram.fetch?, Opcode.decode?_eq_some_iff.mpr code.symm, Option.map_some]
  exact congrArg some (opcode.withOperands_congr
    (fun offset => ram.get (address + UInt8.ofNat offset))
    (fun offset => operands[offset - 1]?.getD 0)
    fun entry found => entry.1.same_of_eq (operand entry found))

/-- A program stands where it is loaded. -/
theorem holds_overlay (ram : Ram) (fits : bytes.length ≤ Ram.size) :
    (ram.overlay bytes).Holds 0 bytes := by
  intro index bound
  have whole : (0 + UInt8.ofNat index).toNat = index := by
    rw [UInt8.zero_add, UInt8.toNat_ofNat']
    exact Nat.mod_eq_of_lt (Nat.lt_of_lt_of_le bound fits)
  rw [Ram.get_overlay, whole, List.getElem?_eq_getElem bound, Option.getD_some]

end ByteMachine
