/-
**The machine by its glossary.**

A second account of one step, written down from the table of instructions. Its state is two
functions and two bytes (`Glossary.State`), opcodes are looked up by their decimal numbers, and the
program counter is settled in one place: an instruction either transfers control or is followed by
the one behind its operands, whose number the two high bits of the opcode give.

* `Glossary.opcode?` and `Glossary.action` are two columns of the table: the number of an opcode
  and its effect.
* `Glossary.step` looks an opcode up and carries its action out.
* `step_eq_iff_glossary_step`: **a computer makes exactly the steps of the glossary**, with every
  device.
-/

import ByteMachine.Computer
import Mathlib.Logic.Function.Basic

namespace ByteMachine.Glossary

open Function (update)

universe u

/-! ### The second account -/

/-- The machine as plain functions: what every address and every register holds, the address of the
next opcode, and the flags as a byte. -/
structure State where
  memory : UInt8 → UInt8
  register : Fin 8 → UInt8
  pc : UInt8
  flags : UInt8

/-- What an instruction does. Only `transfer` says where the machine goes on; after a `change` and a
`print` it goes on behind the operands. -/
inductive Action where
  | stop
  | change (after : State)
  | print (value : UInt8)
  | transfer (after : State) (target : UInt8)

/-- The flags of a comparison: bit 0 for equal, bit 1 for greater, bit 2 for less. -/
def orderBits (first second : UInt8) : UInt8 :=
  (if first = second then 1 else 0) + (if second < first then 2 else 0) +
    (if first < second then 4 else 0)

/-- The register that an operand byte selects. -/
def selected (operand : UInt8) : Fin 8 := ⟨(operand &&& 7).toNat % 8, Nat.mod_lt _ (by decide)⟩

/-- The register that holds the address of the top of the stack. -/
def last : Fin 8 := ⟨7, by decide⟩

/-- The opcode column of the glossary, in decimal as the glossary has it. -/
def opcode? (code : UInt8) : Option Opcode :=
  match code.toNat with
  | 1 => some .halt
  | 17 => some .ret
  | 69 => some .push
  | 70 => some .pop
  | 71 => some .print
  | 80 => some .call
  | 84 => some .jump
  | 85 => some .jumpEqual
  | 86 => some .jumpUnequal
  | 130 => some .load
  | 160 => some (.alu .add)
  | 162 => some (.alu .multiply)
  | 167 => some (.alu .compare)
  | _ => none

/-- The effect column of the glossary. The operands are the two bytes after the opcode, as they
stand before the step; sums, products and addresses are bytes, so they wrap at 256. -/
def action (state : State) (opcode : Opcode) : Action :=
  let x := state.memory (state.pc + 1)
  let y := state.memory (state.pc + 2)
  let a := selected x
  let b := selected y
  let sp := state.register last
  match opcode with
  | .halt => .stop
  | .ret => .transfer { state with register := update state.register last (sp + 1) }
      (state.memory sp)
  -- The order of the halves of a push and of a pop shows when the last register is the operand.
  | .push =>
    let lowered := update state.register last (sp - 1)
    .change { state with
      register := lowered
      memory := update state.memory (sp - 1) (lowered a) }
  | .pop =>
    let loaded := update state.register a (state.memory sp)
    .change { state with register := update loaded last (loaded last + 1) }
  | .print => .print (state.register a)
  | .call => .transfer { state with
      register := update state.register last (sp - 1)
      memory := update state.memory (sp - 1) (state.pc + 2) } (state.register a)
  | .jump => .transfer state (state.register a)
  | .jumpEqual =>
    if state.flags % 2 = 1 then .transfer state (state.register a) else .change state
  | .jumpUnequal =>
    if state.flags % 2 = 1 then .change state else .transfer state (state.register a)
  | .load => .change { state with register := update state.register a y }
  | .alu .add => .change { state with
      register := update state.register a (state.register a + state.register b) }
  | .alu .multiply => .change { state with
      register := update state.register a (state.register a * state.register b) }
  | .alu .compare => .change { state with
      flags := orderBits (state.register a) (state.register b) }

/-- A snapshot for diagnostics; addresses past the last one show as zero. -/
def State.trace (state : State) : Trace where
  pc := state.pc
  flags := ⟨state.flags⟩
  bytes := Vector.ofFn fun offset =>
    if state.pc.toNat + offset.val < 256 then state.memory (state.pc + UInt8.ofNat offset.val)
    else 0
  registers := ⟨Vector.ofFn state.register⟩

/-- The number of operands, which the two high bits of an opcode hold. -/
def operandCount (code : UInt8) : UInt8 := code >>> 6

/-- The address behind the operands of the instruction at the program counter. -/
def State.behind (state : State) : UInt8 :=
  state.pc + 1 + operandCount (state.memory state.pc)

variable {δ : Type u} [Device δ]

/-- Carries out an action. -/
def State.perform (state : State) (device : δ) : Action → Status × State × δ
  | .stop => (.halted, state, device)
  | .change after => (.running, { after with pc := state.behind }, device)
  | .print value => (.running, { state with pc := state.behind }, Device.print device value)
  | .transfer after target => (.running, { after with pc := target }, device)

/-- One step by the glossary. -/
def step (state : State) (device : δ) : Status × State × δ :=
  match opcode? (state.memory state.pc) with
  | none => (.faulted (.badInstruction (state.memory state.pc) state.trace), state, device)
  | some opcode => state.perform device (action state opcode)

/-! ### What a machine is to the glossary -/

/-- A machine read through its addresses and registers. -/
def State.ofMachine (machine : Machine) : State :=
  ⟨machine.ram.get, machine.registers.get, machine.pc, machine.flags.bits⟩

/-- Machines that read alike are the same machine. -/
theorem ofMachine_injective : Function.Injective State.ofMachine := by
  intro first second same
  rcases first with ⟨firstRam, firstRegisters, _, ⟨_⟩⟩
  rcases second with ⟨secondRam, secondRegisters, _, ⟨_⟩⟩
  simp only [State.ofMachine, State.mk.injEq] at same
  obtain ⟨memory, register, rfl, rfl⟩ := same
  have ram : firstRam = secondRam := Ram.ext (congrFun memory)
  have registers : firstRegisters = secondRegisters := Registers.ext (congrFun register)
  rw [ram, registers]

theorem get_set_eq_update (ram : Ram) (address value : UInt8) :
    (ram.set address value).get = update ram.get address value := by
  funext other
  rw [Ram.get_set, Function.update_apply]

theorem registers_get_set_eq_update (registers : Registers) (register : Register)
    (value : UInt8) : (registers.set register value).get = update registers.get register value := by
  funext other
  rw [Registers.get_set, Function.update_apply]

theorem ofMachine_moveTo (machine : Machine) (address : UInt8) :
    State.ofMachine (machine.moveTo address) =
      { State.ofMachine machine with pc := address } := rfl

theorem ofMachine_flags (machine : Machine) (flags : Flags) :
    State.ofMachine { machine with flags } =
      { State.ofMachine machine with flags := flags.bits } := rfl

theorem get_assign (machine : Machine) (register : Register) (value : UInt8) :
    (machine.assign register value).registers.get =
      update machine.registers.get register value :=
  registers_get_set_eq_update machine.registers register value

theorem ofMachine_assign (machine : Machine) (register : Register) (value : UInt8) :
    State.ofMachine (machine.assign register value) =
      { State.ofMachine machine with
        register := update machine.registers.get register value } := by
  rw [← get_assign]
  rfl

theorem ofMachine_pushed (machine : Machine) (value : UInt8) :
    State.ofMachine (machine.pushed value) =
      { State.ofMachine machine with
        register := update machine.registers.get last (machine.stackPointer - 1)
        memory := update machine.ram.get (machine.stackPointer - 1) value } := by
  simp only [State.ofMachine, Machine.pushed, registers_get_set_eq_update, get_set_eq_update]
  rfl

theorem ofMachine_dropped (machine : Machine) :
    State.ofMachine machine.dropped =
      { State.ofMachine machine with
        register := update machine.registers.get last (machine.stackPointer + 1) } := by
  simp only [State.ofMachine, Machine.dropped, registers_get_set_eq_update]
  rfl

theorem selected_eq_ofByte (operand : UInt8) : selected operand = Register.ofByte operand := by
  apply Fin.ext
  show (operand &&& 7).toNat % 8 = _
  rw [← Register.val_ofByte]
  exact Nat.mod_eq_of_lt (Register.ofByte operand).isLt

/-- A comparison sets the bit of the one order that holds. -/
theorem bits_compare (first second : UInt8) :
    (Flags.compare first second).bits = orderBits first second := by
  unfold orderBits
  obtain ⟨rfl, found⟩ | ⟨above, found⟩ | ⟨below, found⟩ := Flags.compare_cases first second
  · rw [found, if_pos rfl, if_neg (UInt8.lt_irrefl first), if_neg (UInt8.lt_irrefl first)]
    rfl
  · rw [found, if_neg (UInt8.ne_of_lt above).symm, if_pos above, if_neg (UInt8.lt_asymm above)]
    rfl
  · rw [found, if_neg (UInt8.ne_of_lt below), if_neg (UInt8.lt_asymm below), if_pos below]
    rfl

/-- The flags say equal when their lowest bit is set. -/
theorem flags_odd_iff (machine : Machine) :
    (State.ofMachine machine).flags % 2 = 1 ↔ machine.flags.equal = true := by
  show machine.flags.bits % 2 = 1 ↔ _
  generalize machine.flags = flags
  have bit : flags.bits &&& 1 = flags.bits % 2 := by
    apply UInt8.toNat_inj.mp
    rw [UInt8.toNat_and, UInt8.toNat_mod]
    exact Nat.and_one_is_mod _
  have half : (flags.bits % 2).toNat < 2 := by
    rw [UInt8.toNat_mod]
    exact Nat.mod_lt _ (by decide)
  rw [Flags.equal, bit, bne_iff_ne, ne_eq, ← UInt8.toNat_inj, ← UInt8.toNat_inj]
  show (flags.bits % 2).toNat = 1 ↔ ¬ (flags.bits % 2).toNat = 0
  omega

theorem trace_ofMachine (machine : Machine) :
    (State.ofMachine machine).trace = machine.trace := by
  have bytes : ∀ offset : Fin 3,
      (if machine.pc.toNat + offset.val < 256 then
        machine.ram.get (machine.pc + UInt8.ofNat offset.val) else 0) =
      machine.ram.read (machine.pc.toNat + offset.val) := by
    intro offset
    rw [Ram.read_eq, UInt8.ofNat_add, UInt8.ofNat_toNat]
  have registers : (⟨Vector.ofFn machine.registers.get⟩ : Registers) = machine.registers := by
    apply Registers.ext
    intro register
    exact Vector.getElem_ofFn register.isLt
  unfold State.trace Machine.trace State.ofMachine
  simp only [bytes, registers]

/-! ### The two accounts agree -/

/-- The numbers of the glossary are the bytes that decode. -/
theorem opcode?_eq_decode? (code : UInt8) : opcode? code = Opcode.decode? code := by
  have every : ∀ number : Fin 256,
      opcode? (UInt8.ofNat number) = Opcode.decode? (UInt8.ofNat number) := by
    decide +kernel
  have here := every ⟨code.toNat, code.toNat_lt⟩
  rwa [UInt8.ofNat_toNat] at here

/-- The address behind the operands is as many bytes on as the instruction is long. -/
theorem behind_ofMachine {machine : Machine} {opcode : Opcode}
    (code : opcode.byte = machine.ram.get machine.pc) (first second : UInt8) :
    (State.ofMachine machine).behind =
      machine.pc + (opcode.withOperands first second).length := by
  rw [length_withOperands, ← UInt8.add_assoc]
  show machine.pc + 1 + operandCount (machine.ram.get machine.pc) = _
  rw [← code]
  rfl

/-- A step's result as the glossary reads it. -/
def observed (result : Status × Computer δ) : Status × State × δ :=
  (result.1, State.ofMachine result.2.machine, result.2.device)

/-- An instruction that goes on does to a machine what its action does to the reading. -/
theorem perform_action {machine : Machine} (device : δ) {opcode : Opcode}
    (code : opcode.byte = machine.ram.get machine.pc) (goes : opcode ≠ .halt) :
    (State.ofMachine machine).perform device (action (State.ofMachine machine) opcode) =
      (.running,
        State.ofMachine (machine.execute (opcode.withOperands (machine.ram.get (machine.pc + 1))
          (machine.ram.get (machine.pc + 2)))),
        Device.accept device (machine.printed? (opcode.withOperands
          (machine.ram.get (machine.pc + 1)) (machine.ram.get (machine.pc + 2))))) := by
  have behind := behind_ofMachine code (machine.ram.get (machine.pc + 1))
    (machine.ram.get (machine.pc + 2))
  cases opcode with
  | halt => exact absurd rfl goes
  | jumpEqual =>
    simp only [action, Opcode.withOperands, Machine.execute]
    by_cases equal : machine.flags.equal = true
    · rw [if_pos equal, if_pos ((flags_odd_iff machine).mpr equal), selected_eq_ofByte]
      rfl
    · rw [if_neg equal, if_neg (fun odd => equal ((flags_odd_iff machine).mp odd))]
      simp only [State.perform, behind]
      rfl
  | jumpUnequal =>
    simp only [action, Opcode.withOperands, Machine.execute]
    by_cases equal : machine.flags.equal = true
    · rw [if_pos equal, if_pos ((flags_odd_iff machine).mpr equal)]
      simp only [State.perform, behind]
      rfl
    · rw [if_neg equal, if_neg (fun odd => equal ((flags_odd_iff machine).mp odd)),
        selected_eq_ofByte]
      rfl
  | alu operation =>
    cases operation <;> simp only [action, State.perform, behind, Opcode.withOperands,
      Machine.execute, Alu.Operation.eval, Machine.store, Machine.advance, ofMachine_moveTo,
      ofMachine_assign, ofMachine_flags, bits_compare, selected_eq_ofByte]
    · rfl
    · rfl
    · rfl
  | push =>
    simp only [action, State.perform, behind, Opcode.withOperands, Machine.execute,
      Machine.advance, ofMachine_moveTo, ofMachine_pushed, get_assign, selected_eq_ofByte]
    rfl
  | pop =>
    simp only [action, State.perform, behind, Opcode.withOperands, Machine.execute,
      Machine.advance, ofMachine_moveTo, ofMachine_dropped, Machine.stackPointer, get_assign,
      selected_eq_ofByte]
    rfl
  | _ =>
    simp only [action, State.perform, behind, Opcode.withOperands, Machine.execute,
      Machine.advance, ofMachine_moveTo, ofMachine_assign, ofMachine_pushed, ofMachine_dropped,
      selected_eq_ofByte]
    rfl

theorem step_ofMachine (computer : Computer δ) :
    step (State.ofMachine computer.machine) computer.device = observed computer.step := by
  obtain ⟨machine, device⟩ := computer
  have entry := opcode?_eq_decode? (machine.ram.get machine.pc)
  show (match opcode? (machine.ram.get machine.pc) with | none => _ | some opcode => _) = _
  cases decoded : Opcode.decode? (machine.ram.get machine.pc) with
  | none =>
    have fetched : machine.ram.fetch? machine.pc = none := by
      rw [Ram.fetch?, decoded]
      rfl
    rw [decoded] at entry
    rw [entry, Computer.step, Machine.step_of_fetch?_eq_none fetched, ← trace_ofMachine]
    rfl
  | some opcode =>
    have code := Opcode.decode?_eq_some_iff.mp decoded
    have fetched : machine.ram.fetch? machine.pc =
        some (opcode.withOperands (machine.ram.get (machine.pc + 1))
          (machine.ram.get (machine.pc + 2))) := by
      rw [Ram.fetch?, decoded]
      rfl
    rw [decoded] at entry
    rw [entry]
    by_cases stops : opcode = .halt
    · subst stops
      rw [Computer.step, Machine.step_of_fetch?_eq_halt fetched]
      rfl
    · have goes : opcode.withOperands (machine.ram.get (machine.pc + 1))
          (machine.ram.get (machine.pc + 2)) ≠ .halt := by
        cases opcode <;> simp_all [Opcode.withOperands]
      rw [Computer.step, Machine.step_of_fetch?_eq_some fetched goes]
      exact perform_action device code stops

omit [Device δ] in
theorem observed_injective : Function.Injective (observed (δ := δ)) := by
  rintro ⟨firstStatus, firstMachine, firstDevice⟩ ⟨secondStatus, secondMachine, secondDevice⟩ same
  simp only [observed, Prod.mk.injEq] at same
  obtain ⟨rfl, machine, rfl⟩ := same
  rw [ofMachine_injective machine]

/-- **A computer makes exactly the steps of the glossary**, whatever its memory, registers, flags
and program counter hold and whatever its device is. -/
theorem step_eq_iff_glossary_step (computer next : Computer δ) (status : Status) :
    computer.step = (status, next) ↔
      step (State.ofMachine computer.machine) computer.device =
        (status, State.ofMachine next.machine, next.device) := by
  rw [step_ofMachine]
  exact (observed_injective.eq_iff' rfl).symm

end ByteMachine.Glossary
