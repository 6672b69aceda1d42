/-
**No address is special: a machine that is turned round its memory behaves alike.**

To turn a machine by some distance is to move every byte of memory, the program counter and the
stack pointer up by it, modulo 256; the rest of the machine stays as it is (`Machine.rotate`). A
value that holds an address is not turned with it, so the steps in question take no address from a
register or off the stack, and name the stack pointer nowhere (`Machine.Floats`).

* `fetch?_rotate`: an instruction is found with its operands, wherever the end of memory falls.
* `execute_rotate`, `next_rotate`: **executing and turning commute**; `status_rotate` is the report.
* `after_rotate`: the same for any number of steps, by induction on them.
* `rotation_commutes`: what follows for a computer, its reports and its device.
-/

import ByteMachine.Proofs.Computer.Devices
import ByteMachine.Proofs.Machine.Effect

namespace ByteMachine

universe u

/-! ### Turning -/

/-- The memory with every byte moved up by a distance, modulo 256. -/
def Ram.rotate (ram : Ram) (distance : UInt8) : Ram :=
  ⟨Vector.ofFn fun address => ram.get (UInt8.ofNat address.val - distance)⟩

/-- The registers with the stack pointer moved up by a distance. -/
def Registers.rotate (registers : Registers) (distance : UInt8) : Registers :=
  registers.set .stackPointer (registers.get .stackPointer + distance)

/-- **The machine turned by a distance**: memory, program counter and stack pointer are moved. -/
def Machine.rotate (machine : Machine) (distance : UInt8) : Machine :=
  { machine with
    ram := machine.ram.rotate distance
    registers := machine.registers.rotate distance
    pc := machine.pc + distance }

/-- The computer with its machine turned. -/
def Computer.rotate {δ : Type u} (computer : Computer δ) (distance : UInt8) : Computer δ :=
  ⟨computer.machine.rotate distance, computer.device⟩

/-- The fault with another trace. -/
def Fault.withTrace (trace : Trace) : Fault → Fault
  | .badInstruction opcode _ => .badInstruction opcode trace
  | fault => fault

/-- The report with another trace in its fault, if it is a fault. -/
def Status.withTrace (trace : Trace) : Status → Status
  | .faulted fault => .faulted (fault.withTrace trace)
  | status => status

/-! ### Steps without an address of their own -/

/-- The registers that an instruction names. -/
def Instruction.named : Instruction → List Register
  | .halt | .ret => []
  | .push register | .pop register | .print register | .call register | .jump register
  | .jumpEqual register | .jumpUnequal register | .load register _ => [register]
  | .alu _ first second => [first, second]

namespace Machine

/-- The instruction does not go to an address that it finds in a register or on the stack: it is no
return, call or jump, unless it is a conditional jump that is not taken. -/
def stays (machine : Machine) : Instruction → Bool
  | .halt | .push _ | .pop _ | .print _ | .load _ _ | .alu _ _ _ => true
  | .jumpEqual _ => !machine.flags.equal
  | .jumpUnequal _ => machine.flags.equal
  | .ret | .call _ | .jump _ => false

/-- **The step depends on no address**: its instruction stays and names the stack pointer nowhere,
or there is no opcode at the program counter. -/
def Floating (machine : Machine) : Prop :=
  ∀ instruction ∈ machine.current?,
    machine.stays instruction = true ∧ .stackPointer ∉ instruction.named

instance (machine : Machine) : Decidable machine.Floating :=
  inferInstanceAs (Decidable (∀ instruction ∈ machine.current?, _ ∧ _))

/-- Each of so many steps depends on no address. -/
def Floats (start : Machine) (count : Nat) : Prop := ∀ done < count, (start.after done).Floating

instance (start : Machine) (count : Nat) : Decidable (start.Floats count) :=
  inferInstanceAs (Decidable (∀ done < count, _))

end Machine

/-! ### Memory and registers -/

@[simp]
theorem Ram.get_rotate (ram : Ram) (distance address : UInt8) :
    (ram.rotate distance).get address = ram.get (address - distance) := by
  simp [Ram.rotate, Ram.get]

theorem Ram.get_rotate_add (ram : Ram) (distance address : UInt8) :
    (ram.rotate distance).get (address + distance) = ram.get address := by
  simp

/-- A write goes along with the memory. -/
theorem Ram.set_rotate (ram : Ram) (distance address value : UInt8) :
    (ram.rotate distance).set (address + distance) value =
      (ram.set address value).rotate distance := by
  ext other
  have same : other = address + distance ↔ other - distance = address := by grind
  simp only [Ram.get_set, Ram.get_rotate, same]

/-- **The instruction is found with its operands**, wherever the end of memory falls. -/
theorem fetch?_rotate (ram : Ram) (distance address : UInt8) :
    (ram.rotate distance).fetch? (address + distance) = ram.fetch? address := by
  have operand : ∀ offset : UInt8,
      (ram.rotate distance).get (address + distance + offset) = ram.get (address + offset) := by
    intro offset
    rw [show address + distance + offset = address + offset + distance by grind,
      Ram.get_rotate_add]
  rw [Ram.fetch?, Ram.fetch?, Ram.get_rotate_add, operand, operand]

theorem Registers.get_rotate (registers : Registers) (distance : UInt8) (register : Register) :
    (registers.rotate distance).get register =
      if register = .stackPointer then registers.get .stackPointer + distance
      else registers.get register :=
  Registers.get_set registers .stackPointer register _

namespace Machine

variable {machine start : Machine} {distance : UInt8} {instruction : Instruction}
  {register : Register} {count done : Nat}

@[simp]
theorem flags_rotate (machine : Machine) (distance : UInt8) :
    (machine.rotate distance).flags = machine.flags := by
  simp only [rotate]

theorem get_rotate_of_ne (other : register ≠ .stackPointer) :
    (machine.rotate distance).registers.get register = machine.registers.get register := by
  show (machine.registers.rotate distance).get register = _
  rw [Registers.get_rotate, if_neg other]

theorem stackPointer_rotate (machine : Machine) (distance : UInt8) :
    (machine.rotate distance).stackPointer = machine.stackPointer + distance := by
  show (machine.registers.rotate distance).get .stackPointer = _
  rw [Registers.get_rotate, if_pos rfl]
  rfl

theorem top_rotate (machine : Machine) (distance : UInt8) :
    (machine.rotate distance).top = machine.top := by
  rw [top, stackPointer_rotate]
  exact Ram.get_rotate_add machine.ram distance machine.stackPointer

theorem current?_rotate (machine : Machine) (distance : UInt8) :
    (machine.rotate distance).current? = machine.current? :=
  fetch?_rotate machine.ram distance machine.pc

/-! ### The parts of an effect -/

/-- A register file is turned as a whole: a value for the stack pointer goes along, any other stays
as it is. -/
theorem set_rotate (registers : Registers) (distance : UInt8) (register : Register)
    (value : UInt8) :
    (registers.rotate distance).set register
        (if register = .stackPointer then value + distance else value) =
      (registers.set register value).rotate distance := by
  ext other
  simp only [Registers.get_set, Registers.get_rotate]
  by_cases pointer : register = .stackPointer
  · subst pointer
    by_cases here : other = .stackPointer <;> simp [here]
  · by_cases here : other = register
    · simp [here, pointer]
    · simp [here, Ne.symm pointer]

theorem rotate_assign (other : register ≠ .stackPointer) (value : UInt8) :
    (machine.rotate distance).assign register value =
      (machine.assign register value).rotate distance := by
  have turned := set_rotate machine.registers distance register value
  rw [if_neg other] at turned
  exact congrArg (fun registers => { machine.rotate distance with registers }) turned

theorem rotate_store (other : register ≠ .stackPointer) (output : Alu.Output) :
    (machine.rotate distance).store register output =
      (machine.store register output).rotate distance := by
  cases output with
  | register value => exact rotate_assign other value
  | flags flags => rfl

theorem rotate_advance (machine : Machine) (distance bytes : UInt8) :
    (machine.rotate distance).advance bytes = (machine.advance bytes).rotate distance := by
  have behind : machine.pc + distance + bytes = machine.pc + bytes + distance := by grind
  exact congrArg (fun pc => { machine.rotate distance with pc }) behind

theorem rotate_pushed (machine : Machine) (distance value : UInt8) :
    (machine.rotate distance).pushed value = (machine.pushed value).rotate distance := by
  have below : machine.stackPointer + distance - 1 = machine.stackPointer - 1 + distance := by
    grind
  have registers := set_rotate machine.registers distance .stackPointer (machine.stackPointer - 1)
  rw [if_pos rfl, ← below] at registers
  have ram := Ram.set_rotate machine.ram distance (machine.stackPointer - 1) value
  rw [← below] at ram
  unfold pushed
  rw [stackPointer_rotate]
  exact congrArg₂ (fun ram registers => { machine.rotate distance with ram, registers }) ram
    registers

theorem rotate_dropped (machine : Machine) (distance : UInt8) :
    (machine.rotate distance).dropped = machine.dropped.rotate distance := by
  have above : machine.stackPointer + distance + 1 = machine.stackPointer + 1 + distance := by
    grind
  have registers := set_rotate machine.registers distance .stackPointer (machine.stackPointer + 1)
  rw [if_pos rfl, ← above] at registers
  unfold dropped
  rw [stackPointer_rotate]
  exact congrArg (fun registers => { machine.rotate distance with registers }) registers

/-! ### One step -/

/-- **Executing and turning commute**, if the instruction stays and names the stack pointer
nowhere. -/
theorem execute_rotate (stays : machine.stays instruction = true)
    (apart : .stackPointer ∉ instruction.named) :
    (machine.rotate distance).execute instruction =
      (machine.execute instruction).rotate distance := by
  cases instruction with
  | halt => rfl
  | push source =>
    have other : source ≠ .stackPointer := ne_of_mem_of_not_mem List.mem_cons_self apart
    simp only [execute, get_lowered, if_neg other, get_rotate_of_ne other, rotate_pushed,
      rotate_advance]
  | pop target =>
    have other : target ≠ .stackPointer := ne_of_mem_of_not_mem List.mem_cons_self apart
    simp only [execute, top_rotate, rotate_assign other, rotate_dropped, rotate_advance]
  | print source => exact rotate_advance machine distance 2
  | jumpEqual address =>
    have passes : machine.flags.equal = false := by simpa [Machine.stays] using stays
    simp only [execute, flags_rotate, passes, Bool.false_eq_true, if_false, rotate_advance]
  | jumpUnequal address =>
    have passes : machine.flags.equal = true := stays
    simp only [execute, flags_rotate, passes, if_true, rotate_advance]
  | load target value =>
    have other : target ≠ .stackPointer := ne_of_mem_of_not_mem List.mem_cons_self apart
    simp only [execute, rotate_assign other, rotate_advance]
  | alu operation first second =>
    have left : first ≠ .stackPointer := ne_of_mem_of_not_mem List.mem_cons_self apart
    have right : second ≠ .stackPointer :=
      ne_of_mem_of_not_mem (List.mem_cons_of_mem first List.mem_cons_self) apart
    simp only [execute, get_rotate_of_ne left, get_rotate_of_ne right, rotate_store left,
      rotate_advance]
  | ret | call _ | jump _ => cases stays

theorem next_rotate (floating : machine.Floating) (distance : UInt8) :
    (machine.rotate distance).next = machine.next.rotate distance := by
  have current := current?_rotate machine distance
  cases found : machine.current? with
  | none =>
    rw [found] at current
    rw [next_of_stuck (stuck_of_missing current), next_of_stuck (stuck_of_missing found)]
  | some instruction =>
    rw [found] at current
    obtain ⟨stays, apart⟩ := floating instruction found
    rw [next_of_current? current, next_of_current? found, execute_rotate stays apart]

theorem printing?_rotate (floating : machine.Floating) (distance : UInt8) :
    (machine.rotate distance).printing? = machine.printing? := by
  rw [printing?, printing?, current?_rotate]
  cases found : machine.current? with
  | none => rfl
  | some instruction =>
    obtain ⟨-, apart⟩ := floating instruction found
    cases instruction with
    | print source =>
      have other : source ≠ .stackPointer := ne_of_mem_of_not_mem List.mem_cons_self apart
      exact congrArg some (get_rotate_of_ne other)
    | _ => rfl

/-- The report is the same but for the trace of a fault, which is of the turned machine. -/
theorem status_rotate (machine : Machine) (distance : UInt8) :
    (machine.rotate distance).status =
      machine.status.withTrace (machine.rotate distance).trace := by
  have current := current?_rotate machine distance
  have opcode : (machine.rotate distance).ram.get (machine.rotate distance).pc =
      machine.ram.get machine.pc := Ram.get_rotate_add machine.ram distance machine.pc
  cases found : machine.current? with
  | none =>
    rw [found] at current
    rw [status_of_missing current, status_of_missing found, opcode]
    rfl
  | some instruction =>
    rw [found] at current
    by_cases stops : instruction = .halt
    · subst stops
      rw [status_of_halt current, status_of_halt found]
      rfl
    · rw [status_of_current? current stops, status_of_current? found stops]
      rfl

end Machine

/-! ### Some steps -/

namespace Computer

variable {δ : Type u} [Device δ] {start computer : Computer δ} {distance : UInt8}
  {count done : Nat}

theorem next_rotate (floating : computer.machine.Floating) (distance : UInt8) :
    (computer.rotate distance).next = computer.next.rotate distance := by
  rw [next, next, step_eq, step_eq, output?_eq_printing?, output?_eq_printing?]
  simp only [rotate, Machine.next_rotate floating, Machine.printing?_rotate floating]

/-- **The turned computer is the first one all along, turned.** -/
theorem after_rotate (floats : start.machine.Floats count) (within : done ≤ count) :
    (start.rotate distance).after done = (start.after done).rotate distance := by
  induction done with
  | zero => rfl
  | succ done ih =>
    have here := floats done within
    rw [← machine_after] at here
    rw [after_succ, ih (Nat.le_of_lt within), next_rotate here distance, after_succ]

/-- **No address is special.** Turning a machine by any distance turns the whole run with it: its
steps report the same, up to the trace of a fault, its device is given the same values, and it ends
as the turned end of the first run. -/
theorem rotation_commutes (start : Computer δ) (floats : start.machine.Floats count)
    (distance : UInt8) :
    (∀ done < count, ((start.rotate distance).after done).status =
        (start.after done).status.withTrace
          ((start.after done).machine.rotate distance).trace) ∧
      ∀ done ≤ count,
        (start.rotate distance).after done = (start.after done).rotate distance := by
  refine ⟨fun done here => ?_, fun done within => after_rotate floats within⟩
  rw [after_rotate floats (Nat.le_of_lt here), status_eq, status_eq]
  exact Machine.status_rotate (start.after done).machine distance

/-- Loads 5, pushes it over the operand of that load, pops it, finds it equal, passes the jump for
unequal values and prints it; the next byte is no opcode. -/
def overwritesLoad : Machine where
  ram := Ram.zero.overlay [0x82, 0, 5, 0x45, 0, 0x46, 1, 0xa7, 0, 1, 0x56, 2, 0x47, 1, 0xff]
  registers := Registers.boot.set .stackPointer 2
  pc := 0
  flags := .clear

/-- Turned by 254, the load lies across the end of memory and the push is at its last byte. -/
theorem overwritesLoad_turned :
    overwritesLoad.Floats 7 ∧
      ((rotate ⟨overwritesLoad, (#[] : Array UInt8)⟩ 254).after 2).machine.ram.get 255 = 5 ∧
      ((rotate ⟨overwritesLoad, (#[] : Array UInt8)⟩ 254).after 7).device = #[5] ∧
      ((rotate ⟨overwritesLoad, (#[] : Array UInt8)⟩ 254).after 6).status =
        .faulted (.badInstruction 0xff ((overwritesLoad.after 6).rotate 254).trace) ∧
      ((overwritesLoad.after 6).rotate 254).trace.pc = 12 := by
  have floats : overwritesLoad.Floats 7 := by decide +kernel
  obtain ⟨reports, turned⟩ :=
    rotation_commutes ⟨overwritesLoad, (#[] : Array UInt8)⟩ floats 254
  have fault : (after ⟨overwritesLoad, (#[] : Array UInt8)⟩ 6).status =
      .faulted (.badInstruction 0xff (overwritesLoad.after 6).trace) := by decide +kernel
  refine ⟨floats, ?_, ?_, ?_, by decide +kernel⟩
  · rw [turned 2 (by decide)]
    decide +kernel
  · rw [turned 7 (Nat.le_refl 7)]
    decide +kernel
  · rw [reports 6 (by decide), fault, machine_after]
    rfl

end Computer

end ByteMachine
