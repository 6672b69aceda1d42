/-
**Straight-line programs compute what their statements say.**

A calculation is a list of loads, sums, products, comparisons and prints, with any operand bytes.
`Calculation.encode` lays it out as code, an opcode and its operands for each statement, and
`Values.run` is what a statement does to eight numbers below 256, to the outcome of the latest
comparison and to the list of the printed numbers.

* `current?_of_holds`: the machine finds the statement at its code.
* `agrees_execute`: **one statement** keeps the computer in agreement with the numbers, and
  `exists_executes` **a list of them** does so by induction, wherever its code stands.
* `calculation_computed`: **loaded into a machine at boot, a calculation runs through** and ends
  behind its code: at a halt if there is one, otherwise at a zero that is no opcode.
-/

import ByteMachine.Proofs.Computer.Devices
import ByteMachine.Proofs.Machine.Code

namespace ByteMachine.Calculation

open Computer (Reaches collecting run?)

/-! ### Statements and their code -/

/-- One line of a calculation. Its registers are selected by the three low bits of a byte. -/
inductive Statement where
  | load (target value : UInt8)
  | add (first second : UInt8)
  | multiply (first second : UInt8)
  | compare (first second : UInt8)
  | print (source : UInt8)
  deriving DecidableEq, Repr

namespace Statement

def opcode : Statement → Opcode
  | load _ _ => .load
  | add _ _ => .alu .add
  | multiply _ _ => .alu .multiply
  | compare _ _ => .alu .compare
  | print _ => .print

def operands : Statement → List UInt8
  | load target value => [target, value]
  | add first second | multiply first second | compare first second => [first, second]
  | print source => [source]

/-- The code of a statement. -/
def bytes (statement : Statement) : List UInt8 := statement.opcode.byte :: statement.operands

/-- The instruction that the code of a statement stands for. -/
def instruction : Statement → Instruction
  | load target value => .load (.ofByte target) value
  | add first second => .alu .add (.ofByte first) (.ofByte second)
  | multiply first second => .alu .multiply (.ofByte first) (.ofByte second)
  | compare first second => .alu .compare (.ofByte first) (.ofByte second)
  | print source => .print (.ofByte source)

end Statement

/-- The code of a calculation. -/
def encode (program : List Statement) : List UInt8 := program.flatMap Statement.bytes

/-! ### What statements do to numbers -/

/-- The numbers of a calculation. -/
structure Values where
  register : Nat → Nat
  /-- How the values of the latest comparison compare, if there was one. -/
  order : Option Ordering
  printed : List Nat

namespace Values

/-- Zeros, and the base of the stack in the last register. -/
def boot : Values := ⟨fun register => if register = 7 then 244 else 0, none, []⟩

/-- The number in the register that an operand selects. -/
def selected (values : Values) (operand : UInt8) : Nat := values.register (operand.toNat % 8)

/-- The numbers with another one, modulo 256, in the register that an operand selects. -/
def give (values : Values) (operand : UInt8) (number : Nat) : Values :=
  { values with
    register := fun register =>
      if register = operand.toNat % 8 then number % 256 else values.register register }

/-- The numbers after a statement. -/
def run (values : Values) : Statement → Values
  | .load target value => values.give target value.toNat
  | .add first second => values.give first (values.selected first + values.selected second)
  | .multiply first second => values.give first (values.selected first * values.selected second)
  | .compare first second =>
    { values with order := some (compare (values.selected first) (values.selected second)) }
  | .print source => { values with printed := values.printed ++ [values.selected source] }

/-- The numbers after a calculation. -/
def runAll (values : Values) (program : List Statement) : Values := program.foldl run values

/-- The flags that tell the outcome of a comparison: one bit for each. -/
def flags (values : Values) : Nat :=
  match values.order with
  | none => 0
  | some .eq => 1
  | some .gt => 2
  | some .lt => 4

end Values

/-- **The computer holds the numbers**: in its registers, its flags and its device. -/
structure Agrees (values : Values) (computer : Computer (Array UInt8)) : Prop where
  registers : ∀ register : Register,
    (computer.machine.registers.get register).toNat = values.register register
  flags : computer.machine.flags.bits.toNat = values.flags
  printed : computer.device.toList.map UInt8.toNat = values.printed

/-- The calculation has been executed: its steps all went on, and led behind its code. -/
structure Executes (program : List Statement) (values : Values)
    (start final : Computer (Array UInt8)) : Prop where
  reaches : Reaches start program.length final
  pc : final.machine.pc = start.machine.pc + UInt8.ofNat (encode program).length
  ram : final.machine.ram = start.machine.ram
  agrees : Agrees (values.runAll program) final

variable {values : Values} {computer start : Computer (Array UInt8)} {program : List Statement}

/-! ### One statement -/

/-- A statement has as many operands as its opcode asks for. -/
theorem Statement.operandCount_opcode (statement : Statement) :
    statement.opcode.operandCount.toNat = statement.operands.length := by
  rw [← Opcode.length_operands]
  cases statement <;> rfl

theorem current?_of_holds {machine : Machine} {statement : Statement}
    (holds : machine.ram.Holds machine.pc statement.bytes) :
    machine.current? = some statement.instruction := by
  rw [Machine.current?, fetch?_of_holds holds statement.operandCount_opcode]
  cases statement <;> rfl

theorem Agrees.selected (agrees : Agrees values computer) (operand : UInt8) :
    (computer.machine.registers.get (.ofByte operand)).toNat = values.selected operand :=
  agrees.registers (.ofByte operand)

/-- A register is given the same number on both sides. -/
theorem Agrees.give (agrees : Agrees values computer) {operand value : UInt8} {number : Nat}
    (same : value.toNat = number % 256) (register : Register) :
    ((computer.machine.assign (.ofByte operand) value).registers.get register).toNat =
      (values.give operand number).register register := by
  show ((computer.machine.registers.set (.ofByte operand) value).get register).toNat =
    if register.val = operand.toNat % 8 then number % 256 else values.register register
  rw [Registers.get_set]
  by_cases here : register = .ofByte operand
  · have selected : register.val = operand.toNat % 8 := congrArg Fin.val here
    rw [if_pos here, if_pos selected, same]
  · have other : register.val ≠ operand.toNat % 8 := fun equal => here (Fin.ext equal)
    rw [if_neg here, if_neg other, agrees.registers]

theorem bits_compare (first second : UInt8) :
    (Flags.compare first second).bits.toNat =
      match compare first.toNat second.toNat with
      | .eq => 1
      | .gt => 2
      | .lt => 4 := by
  obtain ⟨rfl, found⟩ | ⟨above, found⟩ | ⟨below, found⟩ := Flags.compare_cases first second
  · rw [found, Nat.compare_eq_eq.mpr rfl]
    rfl
  · rw [found, Nat.compare_eq_gt.mpr (UInt8.lt_iff_toNat_lt.mp above)]
    rfl
  · rw [found, Nat.compare_eq_lt.mpr (UInt8.lt_iff_toNat_lt.mp below)]
    rfl

/-- **A statement does to the computer what it does to the numbers.** -/
theorem agrees_execute (agrees : Agrees values computer) (statement : Statement) :
    Agrees (values.run statement)
      ⟨computer.machine.execute statement.instruction,
        Device.accept computer.device
          (computer.machine.printed? statement.instruction)⟩ := by
  cases statement with
  | load target value =>
    refine ⟨agrees.give ?_, agrees.flags, agrees.printed⟩
    exact (Nat.mod_eq_of_lt value.toNat_lt).symm
  | add first second =>
    refine ⟨agrees.give ?_, agrees.flags, agrees.printed⟩
    rw [UInt8.toNat_add, agrees.selected, agrees.selected]
  | multiply first second =>
    refine ⟨agrees.give ?_, agrees.flags, agrees.printed⟩
    rw [UInt8.toNat_mul, agrees.selected, agrees.selected]
  | compare first second =>
    refine ⟨agrees.registers, ?_, agrees.printed⟩
    show (Flags.compare _ _).bits.toNat = _
    rw [bits_compare, agrees.selected, agrees.selected, Values.run, Values.flags]
    cases compare (values.selected first) (values.selected second) <;> rfl
  | print source =>
    refine ⟨agrees.registers, agrees.flags, ?_⟩
    show (Array.push computer.device _).toList.map UInt8.toNat = _
    rw [Array.toList_push, List.map_append, agrees.printed, List.map_singleton, agrees.selected]
    rfl

theorem pc_execute (machine : Machine) (statement : Statement) :
    (machine.execute statement.instruction).pc =
      machine.pc + UInt8.ofNat statement.bytes.length := by
  cases statement <;> rfl

theorem ram_execute (machine : Machine) (statement : Statement) :
    (machine.execute statement.instruction).ram = machine.ram := by
  cases statement <;> rfl

/-! ### A list of statements -/

/-- **A calculation is executed wherever its code stands**, by induction on its statements. -/
theorem exists_executes (program : List Statement) (agrees : Agrees values start)
    (holds : start.machine.ram.Holds start.machine.pc (encode program)) :
    ∃ final, Executes program values start final := by
  induction program generalizing values start with
  | nil =>
    refine ⟨start, .here start, ?_, rfl, agrees⟩
    exact (UInt8.add_zero start.machine.pc).symm
  | cons statement rest ih =>
    obtain ⟨first, behind⟩ := holds_append.mp holds
    obtain ⟨running, next⟩ := Computer.next_of_current? (current?_of_holds first)
      (by cases statement <;> simp [Statement.instruction])
    have agreesNext := agrees_execute agrees statement
    rw [← next] at agreesNext
    have pc : start.next.machine.pc = start.machine.pc + UInt8.ofNat statement.bytes.length := by
      rw [next]
      exact pc_execute start.machine statement
    have ram : start.next.machine.ram = start.machine.ram := by
      rw [next]
      exact ram_execute start.machine statement
    rw [← pc, ← ram] at behind
    obtain ⟨final, executes⟩ := ih agreesNext behind
    refine ⟨final, .cons running executes.reaches, ?_, executes.ram.trans ram, executes.agrees⟩
    rw [executes.pc, pc, ← add_ofNat_add]
    show _ = start.machine.pc + UInt8.ofNat (statement.bytes ++ encode rest).length
    rw [List.length_append]

/-! ### At boot -/

/-- A calculation that is loaded has run through: each statement took a step that goes on, and the
computer has come behind the code, has its memory as loaded and holds the numbers. -/
structure Computes (program : List Statement) (loaded : Machine)
    (final : Computer (Array UInt8)) : Prop where
  reaches : Reaches (collecting loaded) program.length final
  pc : final.machine.pc.toNat = (encode program).length
  ram : final.machine.ram = loaded.ram
  agrees : Agrees (Values.boot.runAll program) final

theorem agrees_boot (ram : Ram) : Agrees Values.boot (collecting { Machine.boot with ram }) where
  registers := by
    show ∀ register, (Registers.boot.get register).toNat = Values.boot.register register
    decide
  flags := rfl
  printed := rfl

/-- A calculation that is loaded with something behind it runs through, and finds that behind it. -/
theorem exists_computes (program : List Statement) (behind : List UInt8)
    (short : (encode program).length ≤ 255)
    (fits : (encode program ++ behind).length ≤ Ram.size) :
    ∃ loaded final, Machine.boot.load (encode program ++ behind) = .ok loaded ∧
      (∀ address,
        loaded.ram.get address = (encode program ++ behind)[address.toNat]?.getD 0) ∧
      Computes program loaded final ∧
      final.machine.ram.get final.machine.pc = behind[0]?.getD 0 := by
  let ram := Machine.boot.ram.overlay (encode program ++ behind)
  have cells : ∀ address, ram.get address = (encode program ++ behind)[address.toNat]?.getD 0 := by
    intro address
    rw [Ram.get_overlay]
    exact congrArg _ (Ram.get_zero address)
  obtain ⟨final, executes⟩ := exists_executes program (agrees_boot ram)
    (holds_append.mp (holds_overlay Machine.boot.ram fits)).1
  have pc : final.machine.pc.toNat = (encode program).length := by
    rw [executes.pc]
    show (0 + UInt8.ofNat (encode program).length).toNat = _
    rw [UInt8.zero_add, UInt8.toNat_ofNat']
    exact Nat.mod_eq_of_lt (Nat.lt_succ_of_le short)
  refine ⟨{ Machine.boot with ram }, final, Machine.load_of_le fits, cells,
    ⟨executes.reaches, pc, executes.ram, executes.agrees⟩, ?_⟩
  rw [executes.ram]
  show ram.get final.machine.pc = _
  rw [cells, pc, List.getElem?_append_right (Nat.le_refl _), Nat.sub_self]

/-- Behind a calculation that is computed, the next step tells how its run ends. -/
theorem Computes.ends {loaded : Machine} {final : Computer (Array UInt8)} {status : Status}
    {exit : Exit} (computes : Computes program loaded final)
    (reported : final.machine.status = status) (ends : status.exit? = some exit) :
    final.step = (status, final) ∧
      ∀ fuel, program.length < fuel → run? fuel (collecting loaded) = some (exit, final) := by
  obtain rfl : final.status = status := final.status_eq.trans reported
  refine ⟨?_, fun fuel enough => Computer.run?_of_reaches computes.reaches ends enough⟩
  rw [Computer.step_eq_pair, Computer.next_of_stuck (Computer.ne_running_of_exit? ends)]

/-- **A calculation computes what its statements say.** Loaded with a halt behind it into a machine
at boot, it halts after a step for each statement, right behind its code and with memory as loaded:
registers, flags and printed values are those that the statements make of the numbers at boot.
Without the halt everything goes the same way, and the zero behind the code is a fault. -/
theorem calculation_computed (program : List Statement) (short : (encode program).length ≤ 255) :
    (∃ loaded final,
      Machine.boot.load (encode program ++ [Opcode.halt.byte]) = .ok loaded ∧
      (∀ address, loaded.ram.get address =
        (encode program ++ [Opcode.halt.byte])[address.toNat]?.getD 0) ∧
      Computes program loaded final ∧
      final.step = (.halted, final) ∧
      ∀ fuel, program.length < fuel →
        run? fuel (collecting loaded) = some (.halted, final)) ∧
    ∃ loaded final trace,
      Machine.boot.load (encode program) = .ok loaded ∧
      (∀ address, loaded.ram.get address = (encode program)[address.toNat]?.getD 0) ∧
      Computes program loaded final ∧
      trace.pc.toNat = (encode program).length ∧
      final.step = (.faulted (.badInstruction 0 trace), final) ∧
      ∀ fuel, program.length < fuel →
        run? fuel (collecting loaded) = some (.faulted (.badInstruction 0 trace), final) := by
  constructor
  · obtain ⟨loaded, final, loads, cells, computes, here⟩ :=
      exists_computes program [Opcode.halt.byte] short
        (by rw [List.length_append]; exact Nat.succ_le_succ short)
    obtain ⟨halts, runs⟩ := computes.ends (Machine.status_eq_halted_iff.mpr here) rfl
    exact ⟨loaded, final, loads, cells, computes, halts, runs⟩
  · obtain ⟨loaded, final, loads, cells, computes, here⟩ :=
      exists_computes program [] short
        (by rw [List.append_nil]; exact Nat.le_succ_of_le short)
    rw [List.append_nil] at loads cells
    have zero : final.machine.ram.get final.machine.pc = 0 := here
    have faulted : final.machine.status = .faulted (.badInstruction 0 final.machine.trace) := by
      refine Machine.status_eq_faulted_iff.mpr ?_
      rw [zero]
      exact ⟨rfl, rfl⟩
    obtain ⟨faults, runs⟩ := computes.ends faulted rfl
    exact ⟨loaded, final, final.machine.trace, loads, cells, computes, computes.pc, faults, runs⟩

/-- Doubles a number beyond 255, compares it with the stack pointer and prints both. Some operands
have more bits than it takes to select a register. -/
def doubles : List Statement :=
  [.load 0xf8 200, .add 0 0x30, .multiply 15 0, .compare 0 7, .print 0xff, .print 0]

/-- The sum is 400 - 256, and the product 244 * 144 - 137 * 256. -/
theorem doubles_computed :
    (encode doubles).length = 16 ∧
      (Values.boot.runAll doubles).printed = [64, 144] ∧
      (Values.boot.runAll doubles).flags = 2 ∧
      ∃ loaded final, Machine.boot.load (encode doubles ++ [Opcode.halt.byte]) = .ok loaded ∧
        run? 7 (collecting loaded) = some (.halted, final) ∧
        final.device.toList.map UInt8.toNat = [64, 144] ∧
        final.machine.flags.bits.toNat = 2 := by
  have length : (encode doubles).length = 16 := by decide
  have printed : (Values.boot.runAll doubles).printed = [64, 144] := by decide
  have flags : (Values.boot.runAll doubles).flags = 2 := by decide
  obtain ⟨⟨loaded, final, loads, -, computes, -, runs⟩, -⟩ :=
    calculation_computed doubles (by rw [length]; decide)
  exact ⟨length, printed, flags, loaded, final, loads, runs 7 (by decide),
    computes.agrees.printed.trans printed, computes.agrees.flags.trans flags⟩

end ByteMachine.Calculation
