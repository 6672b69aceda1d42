/-
**What an instruction does to the machine.**

* `Machine.execute` is the effect on the machine of an instruction that does not stop it, and
  `Machine.printed?` the value that it prints.
* `Machine.step` fetches and executes one instruction. It has three results: the next machine, a
  halt, and a fault. A halt and a fault leave the machine as it was, so they carry no machine.
-/

import ByteMachine.Instruction
import ByteMachine.Machine

namespace ByteMachine

namespace Machine

/-! ### The stack -/

/-- The machine after the stack has grown by one value. -/
def pushed (machine : Machine) (value : UInt8) : Machine :=
  let top := machine.stackPointer - 1
  { machine with
    ram := machine.ram.set top value
    registers := machine.registers.set .stackPointer top }

/-- The value on top of the stack. -/
def top (machine : Machine) : UInt8 := machine.ram.get machine.stackPointer

/-- The machine with its stack pointer one higher. -/
def dropped (machine : Machine) : Machine :=
  { machine with
    registers := machine.registers.set .stackPointer (machine.stackPointer + 1) }

/-! ### Effects -/

/-- The machine with a new value in a register. -/
def assign (machine : Machine) (register : Register) (value : UInt8) : Machine :=
  { machine with registers := machine.registers.set register value }

/-- The machine with the result of a calculation stored: a value in the first register, or flags. -/
def store (machine : Machine) (register : Register) : Alu.Output → Machine
  | .register value => machine.assign register value
  | .flags flags => { machine with flags }

/-- The machine with its program counter moved past some bytes. -/
def advance (machine : Machine) (bytes : UInt8) : Machine :=
  machine.moveTo (machine.pc + bytes)

/-- The machine after an instruction.

The stack pointer may be an operand itself. A push lowers it before the register is read, so
pushing it stores the lowered value; a pop raises it after the register is written, so popping
into it leaves one more than the popped value. A call reads its target before it pushes the return
address. -/
def execute (machine : Machine) (instruction : Instruction) : Machine :=
  match instruction with
  | .halt => machine
  | .ret => machine.dropped.moveTo machine.top
  | .push source =>
    let lowered := machine.assign .stackPointer (machine.stackPointer - 1)
    (machine.pushed (lowered.registers.get source)).advance 2
  | .pop target => (machine.assign target machine.top).dropped.advance 2
  | .print _ => machine.advance 2
  | .call address =>
    (machine.pushed (machine.pc + 2)).moveTo (machine.registers.get address)
  | .jump address => machine.moveTo (machine.registers.get address)
  | .jumpEqual address =>
    if machine.flags.equal then machine.moveTo (machine.registers.get address)
    else machine.advance 2
  | .jumpUnequal address =>
    if machine.flags.equal then machine.advance 2
    else machine.moveTo (machine.registers.get address)
  | .load target value => (machine.assign target value).advance 3
  | .alu operation first second =>
    (machine.store first
      (operation.eval (machine.registers.get first) (machine.registers.get second))).advance 3

/-- The value that an instruction prints, if it prints one. -/
def printed? (machine : Machine) : Instruction → Option UInt8
  | .print source => some (machine.registers.get source)
  | _ => none

/-! ### One step -/

/-- The result of one step of the machine. -/
inductive Step where
  | running (next : Machine) (printed : Option UInt8)
  | halted
  | faulted (fault : Fault)
  deriving DecidableEq, Repr

/-- Fetches the instruction at the program counter and executes it. -/
def step (machine : Machine) : Step :=
  match machine.ram.fetch? machine.pc with
  | none => .faulted (.badInstruction (machine.ram.get machine.pc) machine.trace)
  | some .halt => .halted
  | some instruction => .running (machine.execute instruction) (machine.printed? instruction)

theorem step_of_fetch?_eq_none {machine : Machine}
    (missing : machine.ram.fetch? machine.pc = none) :
    machine.step = .faulted (.badInstruction (machine.ram.get machine.pc) machine.trace) := by
  rw [step, missing]

theorem step_of_fetch?_eq_halt {machine : Machine}
    (found : machine.ram.fetch? machine.pc = some .halt) : machine.step = .halted := by
  rw [step, found]

/-- Every instruction other than a halt is executed. -/
theorem step_of_fetch?_eq_some {machine : Machine} {instruction : Instruction}
    (found : machine.ram.fetch? machine.pc = some instruction) (goes : instruction ≠ .halt) :
    machine.step =
      .running (machine.execute instruction) (machine.printed? instruction) := by
  rw [step, found]
  cases instruction with
  | halt => exact absurd rfl goes
  | _ => rfl

end Machine

end ByteMachine
