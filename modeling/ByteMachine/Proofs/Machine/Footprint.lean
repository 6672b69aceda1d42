/-
**What a step reads, and what it writes.**

* `Machine.codeReads`: the opcode at the program counter and the operands that it asks for.
  `fetch?_congr`: **the instruction depends on nothing else**, and on an operand that selects a
  register only by its three low bits.
* `Machine.reads`: the code, and the top of the stack for an instruction that takes a value off it.
* `Machine.writes`: what so many steps put on the stack, in order, each value with its address.
  `ram_after`: **memory is what it was at the start, overwritten by them.**
-/

import ByteMachine.Proofs.Machine.Course
import ByteMachine.Proofs.Machine.Effect

namespace ByteMachine

/-- How much of a byte counts where it is read. -/
inductive Use where
  | whole
  /-- The three low bits, which select a register. -/
  | register
  deriving DecidableEq, Repr

/-- The part of two bytes that counts is the same. -/
def Use.Same : Use → UInt8 → UInt8 → Prop
  | .whole, first, second => first = second
  | .register, first, second => Register.ofByte first = Register.ofByte second

/-- A cell that is read. -/
structure Read where
  address : UInt8
  use : Use
  deriving DecidableEq, Repr

/-- The operands that an opcode asks for. -/
def Opcode.operands : Opcode → List Use
  | .halt | .ret => []
  | .load => [.register, .whole]
  | .alu _ => [.register, .register]
  | _ => [.register]

/-- The code of the instruction at an address: its opcode and the operands behind it. -/
def Ram.codeReads (ram : Ram) (address : UInt8) : List Read :=
  ⟨address, .whole⟩ ::
    match Opcode.decode? (ram.get address) with
    | none => []
    | some opcode => (opcode.operands.zipIdx 1).map fun operand =>
        ⟨address + UInt8.ofNat operand.2, operand.1⟩

/-- The memory after some writes, each an address and a value. -/
def Ram.writeAll (ram : Ram) (writes : List (UInt8 × UInt8)) : Ram :=
  writes.foldl (fun ram write => ram.set write.1 write.2) ram

namespace Machine

/-- The cells that a step reads for its instruction. -/
def codeReads (machine : Machine) : List Read := machine.ram.codeReads machine.pc

/-- The cell that a step takes a value from, if it takes one off the stack. -/
def stackReads (machine : Machine) : List Read :=
  if machine.current?.any Instruction.takes then [⟨machine.stackPointer, .whole⟩] else []

/-- All cells that a step reads. -/
def reads (machine : Machine) : List Read := machine.codeReads ++ machine.stackReads

/-- The address and the value of a step's write, if it puts a value on the stack. -/
def write? (machine : Machine) : Option (UInt8 × UInt8) :=
  machine.current?.bind fun instruction =>
    (machine.stored? instruction).map fun value => (machine.stackPointer - 1, value)

/-- What so many steps write, in their order. -/
def writes (start : Machine) (count : Nat) : List (UInt8 × UInt8) :=
  (List.range count).filterMap fun done => (start.after done).write?

/-- The cells that so many steps write. -/
def written (start : Machine) (count : Nat) : List UInt8 := (start.writes count).map Prod.fst

end Machine

/-! ### Code -/

/-- An opcode asks for as many operands as its high bits say. -/
theorem Opcode.length_operands (opcode : Opcode) :
    opcode.operands.length = opcode.operandCount.toNat := by
  cases opcode with
  | alu operation => cases operation <;> rfl
  | _ => rfl

theorem Use.same_of_eq {first second : UInt8} (use : Use) (same : first = second) :
    use.Same first second := by
  cases use with
  | whole => exact same
  | register => exact congrArg Register.ofByte same

/-- An instruction is the same for operands of which the same part counts. -/
theorem Opcode.withOperands_congr (opcode : Opcode) (first second : Nat → UInt8)
    (same : ∀ operand ∈ opcode.operands.zipIdx 1,
      operand.1.Same (first operand.2) (second operand.2)) :
    opcode.withOperands (first 1) (first 2) = opcode.withOperands (second 1) (second 2) := by
  cases opcode with
  | halt | ret => rfl
  | load =>
    have target : Register.ofByte (first 1) = Register.ofByte (second 1) :=
      same (.register, 1) (by simp [operands])
    have value : first 2 = second 2 := same (.whole, 2) (by simp [operands])
    rw [withOperands, withOperands, target, value]
  | alu operation =>
    have left : Register.ofByte (first 1) = Register.ofByte (second 1) :=
      same (.register, 1) (by simp [operands])
    have right : Register.ofByte (first 2) = Register.ofByte (second 2) :=
      same (.register, 2) (by simp [operands])
    rw [withOperands, withOperands, left, right]
  | _ =>
    have register : Register.ofByte (first 1) = Register.ofByte (second 1) :=
      same (.register, 1) (by simp [operands])
    simp only [withOperands, register]

/-- **The instruction depends on nothing but its code.** -/
theorem fetch?_congr {first second : Ram} {address : UInt8}
    (same : ∀ read ∈ first.codeReads address,
      read.use.Same (first.get read.address) (second.get read.address)) :
    first.fetch? address = second.fetch? address := by
  have code : first.get address = second.get address := same ⟨address, .whole⟩ List.mem_cons_self
  rw [Ram.fetch?, Ram.fetch?, ← code]
  cases decoded : Opcode.decode? (first.get address) with
  | none => rfl
  | some opcode =>
    have equal := opcode.withOperands_congr (fun offset => first.get (address + UInt8.ofNat offset))
      (fun offset => second.get (address + UInt8.ofNat offset)) fun operand found =>
        same ⟨address + UInt8.ofNat operand.2, operand.1⟩ (by
          rw [Ram.codeReads, decoded]
          exact List.mem_cons_of_mem _ (List.mem_map_of_mem found))
    exact congrArg some equal

/-! ### Memory -/

theorem get_writeAll_of_not_mem {ram : Ram} {writes : List (UInt8 × UInt8)} {address : UInt8}
    (kept : address ∉ writes.map Prod.fst) :
    (ram.writeAll writes).get address = ram.get address := by
  induction writes generalizing ram with
  | nil => rfl
  | cons write rest ih =>
    rw [List.map_cons, List.mem_cons, not_or] at kept
    show ((ram.set write.1 write.2).writeAll rest).get address = _
    rw [ih kept.2, Ram.get_set, if_neg kept.1]

/-- The same writes leave the same in every cell that they write, and in every other cell what was
the same before. -/
theorem get_writeAll_congr {first second : Ram} {writes : List (UInt8 × UInt8)} {address : UInt8}
    (same : address ∈ writes.map Prod.fst ∨ first.get address = second.get address) :
    (first.writeAll writes).get address = (second.writeAll writes).get address := by
  induction writes generalizing first second with
  | nil => exact same.resolve_left List.not_mem_nil
  | cons write rest ih =>
    show ((first.set write.1 write.2).writeAll rest).get address =
      ((second.set write.1 write.2).writeAll rest).get address
    apply ih
    rw [Ram.get_set, Ram.get_set]
    by_cases here : address = write.1
    · rw [if_pos here, if_pos here]
      exact .inr rfl
    · rw [if_neg here, if_neg here]
      refine same.imp_left fun found => ?_
      rw [List.map_cons, List.mem_cons] at found
      exact found.resolve_left here

namespace Machine

theorem write?_of_current? {machine : Machine} {instruction : Instruction}
    (found : machine.current? = some instruction) :
    machine.write? =
      (machine.stored? instruction).map fun value => (machine.stackPointer - 1, value) := by
  rw [write?, found]
  rfl

theorem writes_succ (start : Machine) (count : Nat) :
    start.writes (count + 1) = start.writes count ++ (start.after count).write?.toList :=
  gathered_succ write? start count

theorem ram_next (machine : Machine) :
    machine.next.ram = machine.ram.writeAll machine.write?.toList := by
  cases found : machine.current? with
  | none =>
    rw [next_of_stuck (stuck_of_missing found), write?, found]
    rfl
  | some instruction =>
    rw [next_of_current? found, ram_execute, write?_of_current? found]
    cases machine.stored? instruction <;> rfl

/-- **Memory is what it was at the start, overwritten by the writes since then.** -/
theorem ram_after (start : Machine) (count : Nat) :
    (start.after count).ram = start.ram.writeAll (start.writes count) := by
  induction count with
  | zero => rfl
  | succ count ih =>
    rw [after_succ, ram_next, ih, writes_succ]
    exact List.foldl_append.symm

/-- A cell that is not written keeps its value. -/
theorem get_after_of_not_written {start : Machine} {count : Nat} {address : UInt8}
    (kept : address ∉ start.written count) :
    (start.after count).ram.get address = start.ram.get address := by
  rw [ram_after]
  exact get_writeAll_of_not_mem kept

end Machine

end ByteMachine
