/-
**Registers that are pushed and popped in reverse are restored.**

`saveRestore` is the code that pushes some registers, repeats and the stack pointer among them, and
pops them in reverse. It is nested like brackets (`saveRestore_cons`): between a push and its pop
stands the code of the other registers, which by induction leaves everything as it was right after
the push. So the pop finds what the push has stored, which its register holds all the time
(`top_of_restored`), and all it does is to raise the stack pointer again.

* `Restored`: all is as it was, the cells of the stack apart. `Restored.enclosed`: a push before and
  a pop behind keep it so.
* `restored_of_holds`: **the code restores the computer**, if the cells of its stack are none of its
  own.
-/

import ByteMachine.Proofs.Computer.Course
import ByteMachine.Proofs.Machine.Code

namespace ByteMachine

universe u

theorem Registers.set_get_self (registers : Registers) (register : Register) :
    registers.set register (registers.get register) = registers := by
  refine Registers.ext fun other => ?_
  rw [get_set]
  split
  · rename_i same
    rw [same]
  · rfl

namespace Machine

/-- The address of a value that is pushed with so many others below the top of the stack. -/
def beneath (machine : Machine) (others : Nat) : UInt8 :=
  machine.stackPointer - UInt8.ofNat (others + 1)

/-- The cells that a stack takes when it grows by so many values are none of so many cells of the
code at the program counter. -/
def Apart (machine : Machine) (length depth : Nat) : Prop :=
  ∀ index < length, ∀ others < depth,
    machine.pc + UInt8.ofNat index ≠ machine.beneath others

instance (machine : Machine) (length depth : Nat) : Decidable (machine.Apart length depth) :=
  inferInstanceAs (Decidable (∀ index < length, ∀ others < depth, _ ≠ _))

variable {machine : Machine} {length depth : Nat}

/-! ### The cells of the stack -/

theorem stackPointer_push (machine : Machine) (source : Register) :
    (machine.execute (.push source)).stackPointer = machine.stackPointer - 1 := by
  have kept : (Instruction.push source).target? ≠ some .stackPointer := nofun
  exact machine.stackPointer_execute kept

/-- A push stores at the first of the cells, and the others are left for what follows it. -/
theorem beneath_push (machine : Machine) (source : Register) (others : Nat) :
    (machine.execute (.push source)).beneath others = machine.beneath (others + 1) := by
  rw [beneath, beneath, stackPointer_push, UInt8.ofNat_add (others + 1) 1]
  grind

/-- Fewer than 256 cells further down is another cell. -/
theorem beneath_zero_ne (machine : Machine) {others : Nat} (bound : others + 1 < 256) :
    machine.beneath 0 ≠ machine.beneath (others + 1) := by
  intro same
  have none : UInt8.ofNat (others + 1) = 0 := by
    rw [beneath, beneath, UInt8.ofNat_add (others + 1) 1] at same
    grind
  have whole := congrArg UInt8.toNat none
  rw [UInt8.toNat_ofNat', UInt8.toNat_zero] at whole
  omega

/-- Code that leaves room for a stack does not fill memory. -/
theorem Apart.length_lt (apart : machine.Apart length depth) (grows : 0 < depth) :
    length < 256 := by
  refine Nat.lt_of_not_le fun filled => ?_
  -- Any cell, the first one of the stack too, is some number of cells on from the program counter.
  let distance := machine.beneath 0 - machine.pc
  refine apart distance.toNat (Nat.lt_of_lt_of_le distance.toNat_lt filled) 0 grows ?_
  rw [UInt8.ofNat_toNat, UInt8.add_comm]
  exact UInt8.sub_add_cancel _ _

theorem Apart.shorten {shorter : Nat} (apart : machine.Apart length depth)
    (within : shorter ≤ length) : machine.Apart shorter depth :=
  fun index inside => apart index (Nat.lt_of_lt_of_le inside within)

/-- Behind a push the rest of the code is apart from the rest of the stack. -/
theorem Apart.push (apart : machine.Apart (2 + length) (depth + 1)) (source : Register) :
    (machine.execute (.push source)).Apart length depth := by
  intro index within others bound
  rw [beneath_push]
  have here := apart (2 + index) (by omega) (others + 1) (Nat.succ_lt_succ bound)
  rwa [add_ofNat_add] at here

end Machine

namespace Computer

variable {δ : Type u} {start inner : Computer δ} {register : Register} {operand : UInt8}
  {rest : List UInt8} {length depth : Nat}

/-- The code that pushes the registers that some operand bytes select, and pops them in reverse. -/
def saveRestore (operands : List UInt8) : List UInt8 :=
  (operands.flatMap fun operand => [Opcode.push.byte, operand]) ++
    operands.reverse.flatMap fun operand => [Opcode.pop.byte, operand]

/-- **Everything is as it was**, except for the cells that a stack takes when it grows by so many
values, behind so many cells of code. -/
structure Restored (start final : Computer δ) (length depth : Nat) : Prop where
  registers : final.machine.registers = start.machine.registers
  flags : final.machine.flags = start.machine.flags
  pc : final.machine.pc = start.machine.pc + UInt8.ofNat length
  device : final.device = start.device
  ram : ∀ address, (∀ others < depth, address ≠ start.machine.beneath others) →
    final.machine.ram.get address = start.machine.ram.get address

/-! ### The code -/

theorem saveRestore_cons (operand : UInt8) (rest : List UInt8) :
    saveRestore (operand :: rest) =
      [Opcode.push.byte, operand] ++ (saveRestore rest ++ [Opcode.pop.byte, operand]) := by
  simp only [saveRestore, List.flatMap_cons, List.reverse_cons, List.flatMap_append,
    List.flatMap_nil, List.append_assoc, List.append_nil]

theorem length_saveRestore_cons (operand : UInt8) (rest : List UInt8) :
    (saveRestore (operand :: rest)).length = 2 + ((saveRestore rest).length + 2) := by
  rw [saveRestore_cons, List.length_append, List.length_append]
  rfl

theorem length_saveRestore (operands : List UInt8) :
    (saveRestore operands).length = 4 * operands.length := by
  induction operands with
  | nil => rfl
  | cons operand rest ih =>
    rw [length_saveRestore_cons, ih, List.length_cons]
    omega

/-! ### A push and its pop -/

/-- The computer right behind a push. -/
def pushing (start : Computer δ) (register : Register) : Computer δ :=
  ⟨start.machine.execute (.push register), start.device⟩

/-- The computer right behind a pop. -/
def popping (inner : Computer δ) (register : Register) : Computer δ :=
  ⟨inner.machine.execute (.pop register), inner.device⟩

theorem next_of_push [Device δ]
    (holds : start.machine.ram.Holds start.machine.pc ([Opcode.push.byte, operand] ++ rest)) :
    start.status = .running ∧ start.next = start.pushing (.ofByte operand) :=
  next_of_current? (fetch?_of_holds (holds_append.mp holds).1 rfl) (by simp)

theorem next_of_pop [Device δ]
    (holds : inner.machine.ram.Holds inner.machine.pc [Opcode.pop.byte, operand]) :
    inner.status = .running ∧ inner.next = inner.popping (.ofByte operand) :=
  next_of_current? (fetch?_of_holds holds rfl) (by simp)

/-- What a push stores is not stored over the code behind it. -/
theorem holds_pushing {bytes : List UInt8}
    (holds : start.machine.ram.Holds start.machine.pc ([Opcode.push.byte, operand] ++ bytes))
    (apart : start.machine.Apart (2 + bytes.length) (depth + 1)) (register : Register) :
    (start.pushing register).machine.ram.Holds (start.pushing register).machine.pc bytes := by
  show Ram.Holds (start.machine.ram.set (start.machine.beneath 0) _) (start.machine.pc + 2) bytes
  refine (holds_append.mp holds).2.congr fun index bound => ?_
  have other := apart (2 + index) (Nat.add_lt_add_left bound 2) 0 (Nat.zero_lt_succ depth)
  rw [add_ofNat_add] at other
  rw [Ram.get_set]
  exact if_neg other

/-- Code that is apart from the stack stays where it stands while the stack grows. -/
theorem Restored.holds {final : Computer δ} {front bytes : List UInt8}
    (restored : Restored start final front.length depth)
    (holds : start.machine.ram.Holds start.machine.pc (front ++ bytes))
    (apart : start.machine.Apart (front ++ bytes).length depth) :
    final.machine.ram.Holds final.machine.pc bytes := by
  rw [restored.pc]
  refine (holds_append.mp holds).2.congr fun index bound => restored.ram _ fun others below => ?_
  have here := apart (front.length + index) (by rw [List.length_append]; omega) others below
  rwa [add_ofNat_add] at here

/-- The pop finds what the push has stored, which its register holds all the time. -/
theorem top_of_restored (shallow : depth < 255)
    (restored : Restored (start.pushing register) inner length depth) :
    inner.machine.top = inner.machine.registers.get register := by
  have pointer : inner.machine.stackPointer = start.machine.beneath 0 := by
    show inner.machine.registers.get .stackPointer = _
    rw [restored.registers]
    exact start.machine.stackPointer_push register
  have kept := restored.ram (start.machine.beneath 0) fun others bound => by
    rw [pushing, Machine.beneath_push]
    exact start.machine.beneath_zero_ne (by omega)
  rw [Machine.top, pointer, kept, restored.registers]
  show (start.machine.ram.set (start.machine.beneath 0) _).get _ = _
  rw [Ram.get_set, if_pos rfl]
  rfl

/-- **A push and its pop restore what is restored between them.** -/
theorem Restored.enclosed (shallow : depth < 255)
    (restored : Restored (start.pushing register) inner length depth) :
    Restored start (inner.popping register) (2 + (length + 2)) (depth + 1) where
  registers := by
    show ((inner.machine.registers.set register inner.machine.top).set .stackPointer
      ((inner.machine.registers.set register inner.machine.top).get .stackPointer + 1)) = _
    rw [top_of_restored shallow restored, Registers.set_get_self, restored.registers]
    refine Registers.ext fun other => ?_
    show (Registers.set (Registers.set _ .stackPointer (start.machine.stackPointer - 1)) _
      (Registers.get (Registers.set _ .stackPointer _) _ + 1)).get other = _
    rw [Registers.get_set, Registers.get_set, Registers.get_set, if_pos rfl]
    by_cases pointer : other = .stackPointer
    · rw [if_pos pointer, UInt8.sub_add_cancel, pointer]
      rfl
    · rw [if_neg pointer, if_neg pointer]
  flags := restored.flags
  pc := by
    show inner.machine.pc + 2 = _
    rw [restored.pc, add_ofNat_add, add_ofNat_add]
    rfl
  device := restored.device
  ram := fun address outside => by
    show inner.machine.ram.get address = _
    rw [restored.ram address fun others bound => ?_]
    · show (start.machine.ram.set (start.machine.beneath 0) _).get _ = _
      rw [Ram.get_set, if_neg (outside 0 (Nat.zero_lt_succ depth))]
    · rw [pushing, Machine.beneath_push]
      exact outside (others + 1) (Nat.succ_lt_succ bound)

/-! ### All registers -/

theorem exists_restored [Device δ] (operands : List UInt8) (start : Computer δ)
    (holds : start.machine.ram.Holds start.machine.pc (saveRestore operands))
    (apart : start.machine.Apart (saveRestore operands).length operands.length) :
    ∃ final, Reaches start (2 * operands.length) final ∧
      Restored start final (saveRestore operands).length operands.length := by
  induction operands generalizing start with
  | nil =>
    refine ⟨start, .here start, rfl, rfl, ?_, rfl, fun _ _ => rfl⟩
    exact (UInt8.add_zero start.machine.pc).symm
  | cons operand rest ih =>
    have small := apart.length_lt (Nat.zero_lt_succ rest.length)
    rw [length_saveRestore, List.length_cons] at small
    rw [saveRestore_cons] at holds
    rw [length_saveRestore_cons, List.length_cons] at apart ⊢
    -- The code between the brackets runs right behind the push, and its pop stands behind it.
    obtain ⟨running, pushed⟩ := next_of_push holds
    have behind := holds_pushing holds
      (by rwa [List.length_append]) (.ofByte operand)
    have apartBehind := apart.push (.ofByte operand)
    obtain ⟨inner, reaches, restored⟩ := ih (start.pushing (.ofByte operand))
      (holds_append.mp behind).1 (apartBehind.shorten (Nat.le_add_right _ 2))
    obtain ⟨runningOn, popped⟩ :=
      next_of_pop (restored.holds behind (by rwa [List.length_append]))
    refine ⟨inner.popping (.ofByte operand), ?_, restored.enclosed (by omega)⟩
    rw [← pushed] at reaches
    rw [← popped]
    exact (Reaches.cons running reaches).concat runningOn

/-- **Pushing registers and popping them in reverse restores the computer.** All steps go on, and
after them every register, the stack pointer among them, and the flags hold what they held before.
The program counter is behind the code, nothing was printed, and memory is changed in the cells of
the stack at most. -/
theorem restored_of_holds [Device δ] (operands : List UInt8) (start : Computer δ)
    (holds : start.machine.ram.Holds start.machine.pc (saveRestore operands))
    (apart : start.machine.Apart (4 * operands.length) operands.length) :
    Reaches start (2 * operands.length) (start.after (2 * operands.length)) ∧
      Restored start (start.after (2 * operands.length)) (4 * operands.length)
        operands.length := by
  rw [← length_saveRestore] at apart ⊢
  obtain ⟨final, reaches, restored⟩ := exists_restored operands start holds apart
  rw [← reaches.arrives]
  exact ⟨reaches, restored⟩

/-- Saves a register, the stack pointer and the register again, by an operand with more bits than it
takes. The code goes round the end of memory, and the stack stands right behind it. -/
def savesTwice : Computer (Array UInt8) :=
  ⟨{ ram := Ram.zero.overlay ([0x46, 0xf9, 0x46, 7, 0x46, 1] ++ List.replicate 244 0 ++
        [0x45, 1, 0x45, 7, 0x45, 0xf9])
     registers := (Registers.boot.set (.ofByte 1) 0x2a).set .stackPointer 9
     pc := 250
     flags := .clear }, #[]⟩

theorem savesTwice_restored :
    savesTwice.machine.ram.Holds 250 (saveRestore [1, 7, 0xf9]) ∧
      savesTwice.machine.Apart 12 3 ∧
      (savesTwice.after 6).machine.registers = savesTwice.machine.registers ∧
      (savesTwice.after 6).machine.pc = 6 ∧
      (savesTwice.after 6).machine.ram.get 5 = savesTwice.machine.ram.get 5 := by
  have holds : savesTwice.machine.ram.Holds 250 (saveRestore [1, 7, 0xf9]) := by decide +kernel
  have apart : savesTwice.machine.Apart 12 3 := by decide +kernel
  have free : ∀ others < 3, (5 : UInt8) ≠ savesTwice.machine.beneath others := by decide +kernel
  have behind : savesTwice.machine.pc + UInt8.ofNat 12 = 6 := by decide +kernel
  obtain ⟨-, restored⟩ := restored_of_holds [1, 7, 0xf9] savesTwice holds apart
  rw [show 2 * [1, 7, (0xf9 : UInt8)].length = 6 from rfl] at restored
  exact ⟨holds, apart, restored.registers, restored.pc.trans behind, restored.ram 5 free⟩

end Computer

end ByteMachine
