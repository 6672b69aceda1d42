/-
**What an instruction does to the memory and to the stack pointer.**

An instruction changes memory only by what it puts on the stack (`Machine.stored?`), and it moves
the stack pointer only by what it puts on the stack or takes off it, unless it names the stack
pointer as its target (`Instruction.target?`).

* `ram_execute`: **memory is written below the stack pointer or not at all.**
* `stackPointer_execute`: down by one for a value that is put on the stack, up by one for a value
  that is taken off it.
-/

import ByteMachine.Machine.Execute

namespace ByteMachine

/-- The register to which an instruction gives a value of its own. -/
def Instruction.target? : Instruction → Option Register
  | .pop target => some target
  | .load target _ => some target
  | .alu .add target _ => some target
  | .alu .multiply target _ => some target
  | _ => none

/-- The instruction takes a value off the stack. -/
def Instruction.takes : Instruction → Bool
  | .ret => true
  | .pop _ => true
  | _ => false

namespace Machine

/-- The value that an instruction puts on the stack, if it puts one there: a push the register, or
the lowered stack pointer if that is the register, and a call the address behind it. -/
def stored? (machine : Machine) : Instruction → Option UInt8
  | .push source =>
    some (if source = .stackPointer then machine.stackPointer - 1
      else machine.registers.get source)
  | .call _ => some (machine.pc + 2)
  | _ => none

/-! ### The stack pointer -/

theorem stackPointer_assign (machine : Machine) (register : Register) (value : UInt8) :
    (machine.assign register value).stackPointer =
      if register = .stackPointer then value else machine.stackPointer := by
  show (machine.registers.set register value).get .stackPointer = _
  rw [Registers.get_set]
  simp only [eq_comm, stackPointer]

theorem stackPointer_pushed (machine : Machine) (value : UInt8) :
    (machine.pushed value).stackPointer = machine.stackPointer - 1 := by
  show (machine.registers.set .stackPointer (machine.stackPointer - 1)).get .stackPointer = _
  rw [Registers.get_set, if_pos rfl]

theorem stackPointer_dropped (machine : Machine) :
    machine.dropped.stackPointer = machine.stackPointer + 1 := by
  show (machine.registers.set .stackPointer (machine.stackPointer + 1)).get .stackPointer = _
  rw [Registers.get_set, if_pos rfl]

/-- The register that a push reads, after the stack pointer was lowered. -/
theorem get_lowered (machine : Machine) (source : Register) :
    (machine.assign .stackPointer (machine.stackPointer - 1)).registers.get source =
      if source = .stackPointer then machine.stackPointer - 1
      else machine.registers.get source :=
  Registers.get_set machine.registers .stackPointer source (machine.stackPointer - 1)

/-- **The stack pointer moves with the stack**, if the instruction does not name it as its
target. -/
theorem stackPointer_execute (machine : Machine) {instruction : Instruction}
    (kept : instruction.target? ≠ some .stackPointer) :
    (machine.execute instruction).stackPointer =
      if (machine.stored? instruction).isSome then machine.stackPointer - 1
      else if instruction.takes then machine.stackPointer + 1
      else machine.stackPointer := by
  cases instruction with
  | push source =>
    exact stackPointer_pushed machine
      ((machine.assign .stackPointer (machine.stackPointer - 1)).registers.get source)
  | call address => exact stackPointer_pushed machine (machine.pc + 2)
  | ret => exact stackPointer_dropped machine
  | pop target =>
    have other : target ≠ .stackPointer := fun same => kept (congrArg some same)
    show (machine.assign target machine.top).dropped.stackPointer = _
    rw [stackPointer_dropped, stackPointer_assign, if_neg other]
    rfl
  | load target value =>
    have other : target ≠ .stackPointer := fun same => kept (congrArg some same)
    show (machine.assign target value).stackPointer = _
    rw [stackPointer_assign, if_neg other]
    rfl
  | alu operation first second =>
    cases operation with
    | compare => rfl
    | add | multiply =>
      have other : first ≠ .stackPointer := fun same => kept (congrArg some same)
      show (machine.assign first _).stackPointer = _
      rw [stackPointer_assign, if_neg other]
      rfl
  | jumpEqual address =>
    show (if machine.flags.equal then _ else _ : Machine).stackPointer = _
    split <;> rfl
  | jumpUnequal address =>
    show (if machine.flags.equal then _ else _ : Machine).stackPointer = _
    split <;> rfl
  | halt | print _ | jump _ => rfl

/-! ### Memory -/

/-- **Memory is written below the stack pointer or not at all.** -/
theorem ram_execute (machine : Machine) (instruction : Instruction) :
    (machine.execute instruction).ram =
      match machine.stored? instruction with
      | some value => machine.ram.set (machine.stackPointer - 1) value
      | none => machine.ram := by
  cases instruction with
  | push source =>
    show machine.ram.set (machine.stackPointer - 1) _ = machine.ram.set _ _
    rw [get_lowered]
  | jumpEqual address =>
    show (if machine.flags.equal then _ else _ : Machine).ram = _
    split <;> rfl
  | jumpUnequal address =>
    show (if machine.flags.equal then _ else _ : Machine).ram = _
    split <;> rfl
  | alu operation first second => cases operation <;> rfl
  | _ => rfl

end Machine

end ByteMachine
