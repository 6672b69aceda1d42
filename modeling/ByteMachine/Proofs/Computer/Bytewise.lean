/-
**The step, byte by byte.**

`Machine.step` fetches an instruction whole and then executes it. Here a cursor moves along the
code: the opcode is read and handled, the handler reads its own operands where the cursor stands,
changes the state one cell at a time and says where to go on. The two forms are the same step.

* `nextRegister_eq`: an operand is read at the cursor, and its three low bits select the register.
* `settle_handle`: **what a handler leaves behind is the executed instruction**, with one case for
  each opcode. Pushing and popping do not use the stack of calls: when their operand is the stack
  pointer, what they read and write depends on the order of the changes.
* `step_eq_step`: **the step byte by byte is the step.**
-/

import ByteMachine.Computer

namespace ByteMachine.Bytewise

universe u

variable {δ : Type u} [Device δ]

/-! ### Reading the code -/

/-- The byte at a cursor, and the cursor behind it. -/
def next (machine : Machine) (cursor : UInt8) : UInt8 × UInt8 :=
  (machine.ram.get cursor, cursor + 1)

/-- The register that the byte at a cursor selects by its low bits, and the cursor behind it. -/
def nextRegister (machine : Machine) (cursor : UInt8) : Register × UInt8 :=
  let (operand, behind) := next machine cursor
  (⟨(operand &&& 7).toNat, Register.val_ofByte operand ▸ (Register.ofByte operand).isLt⟩, behind)

/-! ### The stack of calls -/

/-- Lowers the stack pointer and stores a value there. -/
def pushValue (machine : Machine) (value : UInt8) : Machine :=
  let top := machine.registers.get .stackPointer - 1
  let machine := { machine with registers := machine.registers.set .stackPointer top }
  { machine with ram := machine.ram.set top value }

/-- Raises the stack pointer and reads the value where it was. -/
def popValue (machine : Machine) : UInt8 × Machine :=
  let top := machine.registers.get .stackPointer
  let machine := { machine with registers := machine.registers.set .stackPointer (top + 1) }
  (machine.ram.get top, machine)

/-! ### Handlers -/

/-- What a handler leaves behind: the computer, and the address to go on at unless it halts. -/
abbrev Handled (δ : Type u) := Computer δ × Option UInt8

def ret (computer : Computer δ) : Handled δ :=
  let (address, machine) := popValue computer.machine
  (⟨machine, computer.device⟩, some address)

/-- The stack pointer is lowered before the operand is read. -/
def push (computer : Computer δ) (cursor : UInt8) : Handled δ :=
  let (source, cursor) := nextRegister computer.machine cursor
  let machine := computer.machine
  let machine := machine.assign .stackPointer (machine.registers.get .stackPointer - 1)
  let machine := { machine with
    ram := machine.ram.set (machine.registers.get .stackPointer) (machine.registers.get source) }
  (⟨machine, computer.device⟩, some cursor)

/-- The stack pointer is raised after the operand is written. -/
def pop (computer : Computer δ) (cursor : UInt8) : Handled δ :=
  let (target, cursor) := nextRegister computer.machine cursor
  let machine := computer.machine
  let machine := machine.assign target (machine.ram.get (machine.registers.get .stackPointer))
  let machine := machine.assign .stackPointer (machine.registers.get .stackPointer + 1)
  (⟨machine, computer.device⟩, some cursor)

def print (computer : Computer δ) (cursor : UInt8) : Handled δ :=
  let (source, cursor) := nextRegister computer.machine cursor
  let device := Device.print computer.device (computer.machine.registers.get source)
  (⟨computer.machine, device⟩, some cursor)

/-- The target is read before the address behind the operand is pushed. -/
def call (computer : Computer δ) (cursor : UInt8) : Handled δ :=
  let (register, cursor) := nextRegister computer.machine cursor
  let address := computer.machine.registers.get register
  (⟨pushValue computer.machine cursor, computer.device⟩, some address)

/-- A jump that is taken or goes on behind its operand. -/
def jump (taken : Bool) (computer : Computer δ) (cursor : UInt8) : Handled δ :=
  let (register, cursor) := nextRegister computer.machine cursor
  (computer, some (if taken then computer.machine.registers.get register else cursor))

def load (computer : Computer δ) (cursor : UInt8) : Handled δ :=
  let (target, cursor) := nextRegister computer.machine cursor
  let (value, cursor) := next computer.machine cursor
  (⟨computer.machine.assign target value, computer.device⟩, some cursor)

def alu (operation : Alu.Operation) (computer : Computer δ) (cursor : UInt8) : Handled δ :=
  let (first, cursor) := nextRegister computer.machine cursor
  let (second, cursor) := nextRegister computer.machine cursor
  let registers := computer.machine.registers
  let machine :=
    match operation.eval (registers.get first) (registers.get second) with
    | .register value => computer.machine.assign first value
    | .flags flags => { computer.machine with flags }
  (⟨machine, computer.device⟩, some cursor)

/-- Handles an opcode, with the cursor behind it. -/
def handle (opcode : Opcode) (computer : Computer δ) (cursor : UInt8) : Handled δ :=
  match opcode with
  | .halt => (computer, none)
  | .ret => ret computer
  | .push => push computer cursor
  | .pop => pop computer cursor
  | .print => print computer cursor
  | .call => call computer cursor
  | .jump => jump true computer cursor
  | .jumpEqual => jump computer.machine.flags.equal computer cursor
  | .jumpUnequal => jump (!computer.machine.flags.equal) computer cursor
  | .load => load computer cursor
  | .alu operation => alu operation computer cursor

/-- The result of a step from what its handler has left behind. -/
def settle : Handled δ → Status × Computer δ
  | (last, none) => (.halted, last)
  | (last, some address) => (.running, ⟨last.machine.moveTo address, last.device⟩)

/-- Reads an opcode and handles it. -/
def step (computer : Computer δ) : Status × Computer δ :=
  let (code, cursor) := next computer.machine computer.machine.pc
  match Opcode.decode? code with
  | none => (.faulted (.badInstruction code computer.machine.trace), computer)
  | some opcode => settle (handle opcode computer cursor)

/-! ### The two forms agree -/

theorem nextRegister_eq (machine : Machine) (cursor : UInt8) :
    nextRegister machine cursor = (.ofByte (machine.ram.get cursor), cursor + 1) := by
  refine Prod.ext (Fin.ext ?_) rfl
  exact (Register.val_ofByte (machine.ram.get cursor)).symm

theorem pushValue_eq (machine : Machine) (value : UInt8) :
    pushValue machine value = machine.pushed value := rfl

theorem popValue_eq (machine : Machine) :
    popValue machine = (machine.top, machine.dropped) := rfl

/-- **What a handler leaves behind is the executed instruction.** -/
theorem settle_handle {opcode : Opcode} (goes : opcode ≠ .halt) (computer : Computer δ) :
    settle (handle opcode computer (computer.machine.pc + 1)) =
      let instruction := opcode.withOperands (computer.machine.ram.get (computer.machine.pc + 1))
        (computer.machine.ram.get (computer.machine.pc + 2))
      (.running, ⟨computer.machine.execute instruction,
        Device.accept computer.device (computer.machine.printed? instruction)⟩) := by
  -- Where the cursor stands behind one operand, and behind two.
  have one : computer.machine.pc + 1 + 1 = computer.machine.pc + 2 := UInt8.add_assoc _ 1 1
  have two : computer.machine.pc + 2 + 1 = computer.machine.pc + 3 := UInt8.add_assoc _ 2 1
  cases opcode with
  | halt => exact absurd rfl goes
  | ret =>
    simp only [handle, ret, popValue_eq]
    rfl
  | push =>
    have lowered : ∀ value : UInt8,
        (computer.machine.assign .stackPointer value).registers.get .stackPointer = value := by
      intro value
      rw [Machine.assign, Registers.get_set, if_pos rfl]
    simp only [handle, push, nextRegister_eq, one, lowered]
    rfl
  | pop =>
    simp only [handle, pop, nextRegister_eq, one]
    rfl
  | print =>
    simp only [handle, print, nextRegister_eq, one]
    rfl
  | call =>
    simp only [handle, call, nextRegister_eq, one, pushValue_eq]
    rfl
  | jump =>
    simp only [handle, jump, nextRegister_eq, one]
    rfl
  | jumpEqual =>
    simp only [handle, jump, nextRegister_eq, one, Opcode.withOperands, Machine.execute]
    cases computer.machine.flags.equal <;> rfl
  | jumpUnequal =>
    simp only [handle, jump, nextRegister_eq, one, Opcode.withOperands, Machine.execute]
    cases computer.machine.flags.equal <;> rfl
  | load =>
    simp only [handle, load, next, nextRegister_eq, one, two]
    rfl
  | alu operation =>
    simp only [handle, alu, nextRegister_eq, one, two]
    cases operation <;> rfl

/-- **The step byte by byte is the step.** -/
theorem step_eq_step (computer : Computer δ) : step computer = computer.step := by
  simp only [step, next, Computer.step]
  cases decoded : Opcode.decode? (computer.machine.ram.get computer.machine.pc) with
  | none =>
    have missing : computer.machine.ram.fetch? computer.machine.pc = none := by
      rw [Ram.fetch?, decoded, Option.map_none]
    rw [Machine.step_of_fetch?_eq_none missing]
  | some opcode =>
    have found : computer.machine.ram.fetch? computer.machine.pc =
        some (opcode.withOperands (computer.machine.ram.get (computer.machine.pc + 1))
          (computer.machine.ram.get (computer.machine.pc + 2))) := by
      rw [Ram.fetch?, decoded, Option.map_some]
    by_cases stops : opcode = .halt
    · subst stops
      rw [Machine.step_of_fetch?_eq_halt found]
      rfl
    · have goes : opcode.withOperands (computer.machine.ram.get (computer.machine.pc + 1))
          (computer.machine.ram.get (computer.machine.pc + 2)) ≠ .halt := by
        cases opcode with
        | halt => exact absurd rfl stops
        | _ => exact nofun
      rw [Machine.step_of_fetch?_eq_some found goes]
      exact settle_handle stops computer

end ByteMachine.Bytewise
