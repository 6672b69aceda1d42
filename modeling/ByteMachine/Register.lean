/-
**The register file.**

Eight byte registers. An operand byte names one by its three low bits (`Register.ofByte`), so
inside the machine every access is in range; the last register is the stack pointer. The host
names a register by a number, which may be out of range (`Registers.read`, `Registers.write`).

Two register files are equal when they agree in every register (`Registers.ext`), and `get_set`
says what a write does to each.
-/

namespace ByteMachine

/-- The name of one of the eight registers. -/
abbrev Register := Fin 8

namespace Register

/-- The register that an operand byte selects, by its three low bits. -/
def ofByte (operand : UInt8) : Register := Fin.ofNat 8 operand.toNat

/-- The register that holds the address of the top of the stack. -/
def stackPointer : Register := 7

/-- The three low bits are the number of the register. -/
theorem val_ofByte (operand : UInt8) : (ofByte operand).val = (operand &&& 7).toNat := by
  show operand.toNat % 8 = _
  rw [UInt8.toNat_and, show (7 : UInt8).toNat = 2 ^ 3 - 1 from rfl, Nat.and_two_pow_sub_one_eq_mod]

end Register

/-- The contents of the eight registers. -/
structure Registers where
  cells : Vector UInt8 8
  deriving DecidableEq, Repr

/-- A register number from the host that names no register. -/
structure NoSuchRegister where
  index : Nat
  deriving DecidableEq, Repr

/-- The complaint about a register number out of range. -/
def NoSuchRegister.message (error : NoSuchRegister) : String :=
  s!"index out of bounds: the len is 8 but the index is {error.index}"

namespace Registers

/-- How many registers there are. -/
def count : Nat := 8

/-- The address that the stack grows down from after boot. -/
def stackBase : UInt8 := 0xf4

/-- The value of a register. -/
def get (registers : Registers) (register : Register) : UInt8 := registers.cells[register]

/-- The register file with a new value in one register. -/
def set (registers : Registers) (register : Register) (value : UInt8) : Registers :=
  ⟨registers.cells.set register.val value register.isLt⟩

/-- The register file at boot: zeros, and the stack pointer at `stackBase`. -/
def boot : Registers := set ⟨Vector.replicate 8 0⟩ .stackPointer stackBase

/-- The values in the order of the registers. -/
def toList (registers : Registers) : List UInt8 := registers.cells.toList

@[ext]
theorem ext {first second : Registers}
    (same : ∀ register, first.get register = second.get register) : first = second := by
  cases first
  cases second
  rw [Registers.mk.injEq]
  exact Vector.ext fun index bound => same ⟨index, bound⟩

/-- A write changes the register it names and no other. -/
@[simp]
theorem get_set (registers : Registers) (register other : Register) (value : UInt8) :
    (registers.set register value).get other =
      if other = register then value else registers.get other := by
  unfold get set
  rw [Fin.getElem_fin, Vector.getElem_set]
  simp only [Fin.ext_iff, Fin.getElem_fin, eq_comm]

/-! ### Access by number -/

/-- The value of the register with a number. -/
def read (registers : Registers) (index : Nat) : Except NoSuchRegister UInt8 :=
  if bound : index < 8 then .ok (registers.get ⟨index, bound⟩) else .error ⟨index⟩

/-- The register file with a new value in the register with a number. -/
def write (registers : Registers) (index : Nat) (value : UInt8) :
    Except NoSuchRegister Registers :=
  if bound : index < 8 then .ok (registers.set ⟨index, bound⟩ value) else .error ⟨index⟩

end Registers

end ByteMachine
