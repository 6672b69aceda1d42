/-
**Only bytes that are read influence a run.**

Two machines that differ in memory only (`Machine.DiffersIn`) may hold anything in some cells, and
in others bytes that select the same register. If one of them overlooks these cells, that is if it
does not read them before it has written them (`Machine.Overlooks`), the other one runs alike.

* `execute_withRam`, `next_withRam`: an instruction, and a step, on another memory that agrees where
  the step reads.
* `after_differing`: **the other machine is the first one all along, with its own memory**, which
  the same writes have gone over. By induction on the steps.
* `runs_alike`: what follows for the reports, the devices and the memories.
-/

import ByteMachine.Proofs.Computer.Devices
import ByteMachine.Proofs.Machine.Footprint
import Mathlib.Data.List.Basic
import Mathlib.Data.Set.Insert

namespace ByteMachine

universe u

/-- The fault with other code bytes in its trace. -/
def Fault.showing (bytes : Vector UInt8 3) : Fault → Fault
  | .badInstruction opcode trace => .badInstruction opcode { trace with bytes }
  | fault => fault

/-- The report with other code bytes in the trace of its fault, if it is a fault. -/
def Status.showing (bytes : Vector UInt8 3) : Status → Status
  | .faulted fault => .faulted (fault.showing bytes)
  | status => status

namespace Machine

/-- The machines differ in memory only: arbitrarily in the free cells, and in the masked ones not in
the three low bits. -/
structure DiffersIn (free masked : Set UInt8) (start other : Machine) : Prop where
  pc : other.pc = start.pc
  registers : other.registers = start.registers
  flags : other.flags = start.flags
  elsewhere : ∀ address, address ∉ free → address ∉ masked →
    start.ram.get address = other.ram.get address
  lowBits : ∀ address ∈ masked, start.ram.get address &&& 7 = other.ram.get address &&& 7

/-- So many steps read no free and no masked cell before they have written it, unless they read a
masked one to select a register. -/
def Overlooks (free masked : Set UInt8) (start : Machine) (count : Nat) : Prop :=
  ∀ done < count, ∀ read ∈ (start.after done).reads,
    read.address ∈ free ∨ read.address ∈ masked → read.address ∉ start.written done →
      read.address ∈ masked ∧ read.use = .register

variable {machine start other : Machine} {ram : Ram} {free masked : Set UInt8} {count done : Nat}

/-! ### One step on another memory -/

/-- **An instruction on another memory** does the same, if it finds the same on top of the stack. -/
theorem execute_withRam (machine : Machine) (ram : Ram) {instruction : Instruction}
    (top : instruction.takes = true → machine.top = ram.get machine.stackPointer) :
    execute { machine with ram } instruction =
      { machine.execute instruction with
        ram := ram.writeAll ((machine.stored? instruction).map fun value =>
          (machine.stackPointer - 1, value)).toList } := by
  cases instruction with
  | ret =>
    show _ = Machine.moveTo { machine.dropped with ram } machine.top
    rw [top rfl]
    rfl
  | pop target =>
    show _ = Machine.advance { (machine.assign target machine.top).dropped with ram } 2
    rw [top rfl]
    rfl
  | push source =>
    simp only [stored?, ← get_lowered]
    rfl
  | jumpEqual address | jumpUnequal address =>
    unfold execute
    by_cases equal : machine.flags.equal = true
    · simp only [if_pos equal]
      rfl
    · simp only [if_neg equal]
      rfl
  | alu operation first second => cases operation <;> rfl
  | _ => rfl

section Step

variable (same : ∀ read ∈ machine.reads,
  read.use.Same (machine.ram.get read.address) (ram.get read.address))

include same

/-- The other memory holds the same instruction. -/
theorem current?_withRam : current? { machine with ram } = machine.current? :=
  (fetch?_congr fun read found => same read (List.mem_append_left _ found)).symm

theorem top_withRam {instruction : Instruction} (found : machine.current? = some instruction)
    (takes : instruction.takes = true) : machine.top = ram.get machine.stackPointer := by
  refine same ⟨machine.stackPointer, .whole⟩ (List.mem_append_right _ ?_)
  rw [stackReads, found, Option.any_some, if_pos takes]
  exact List.mem_singleton_self _

theorem next_withRam :
    next { machine with ram } =
      { machine.next with ram := ram.writeAll machine.write?.toList } := by
  have current := current?_withRam same
  cases found : machine.current? with
  | none =>
    rw [found] at current
    rw [next_of_stuck (stuck_of_missing current), next_of_stuck (stuck_of_missing found), write?,
      found]
    rfl
  | some instruction =>
    rw [found] at current
    rw [next_of_current? current, next_of_current? found, write?_of_current? found]
    exact execute_withRam machine ram (top_withRam same found)

/-- The report may differ in the code bytes of its trace, and in nothing else. -/
theorem status_withRam :
    status { machine with ram } =
      machine.status.showing (trace { machine with ram }).bytes := by
  have current := current?_withRam same
  have opcode : machine.ram.get machine.pc = ram.get machine.pc :=
    same ⟨machine.pc, .whole⟩ List.mem_cons_self
  cases found : machine.current? with
  | none =>
    rw [found] at current
    rw [status_of_missing current, status_of_missing found, opcode]
    rfl
  | some instruction =>
    rw [found] at current
    by_cases stops : instruction = .halt
    · subst stops
      rw [status_of_halt current, status_of_halt found]
      rfl
    · rw [status_of_current? current stops, status_of_current? found stops]
      rfl

theorem printing?_withRam : printing? { machine with ram } = machine.printing? := by
  rw [printing?, printing?, current?_withRam same]

end Step

/-! ### A run on another memory -/

theorem DiffersIn.eq_withRam (differs : start.DiffersIn free masked other) :
    other = { start with ram := other.ram } := by
  obtain ⟨ram, registers, pc, flags⟩ := other
  obtain ⟨rfl, rfl, rfl, -, -⟩ := differs
  rfl

/-- The three low bits select the register. -/
theorem ofByte_eq_of_lowBits {first second : UInt8} (same : first &&& 7 = second &&& 7) :
    Register.ofByte first = Register.ofByte second := by
  apply Fin.ext
  rw [Register.val_ofByte, Register.val_ofByte, same]

/-- What an overlooking run reads is the same in the other memory, gone over by its writes. -/
theorem same_of_overlooks (differs : start.DiffersIn free masked other)
    (overlooks : start.Overlooks free masked count) (here : done < count) :
    ∀ read ∈ (start.after done).reads,
      read.use.Same ((start.after done).ram.get read.address)
        ((other.ram.writeAll (start.writes done)).get read.address) := by
  intro read found
  rw [ram_after]
  by_cases written : read.address ∈ start.written done
  · exact read.use.same_of_eq (get_writeAll_congr (.inl written))
  · by_cases hidden : read.address ∈ free ∨ read.address ∈ masked
    · obtain ⟨selects, use⟩ := overlooks done here read found hidden written
      rw [get_writeAll_of_not_mem written, get_writeAll_of_not_mem written, use]
      exact ofByte_eq_of_lowBits (differs.lowBits read.address selects)
    · obtain ⟨notFree, notMasked⟩ := not_or.mp hidden
      exact read.use.same_of_eq
        (get_writeAll_congr (.inr (differs.elsewhere read.address notFree notMasked)))

/-- **The other machine is the first one all along, with its own memory**, gone over by the same
writes. -/
theorem after_differing (differs : start.DiffersIn free masked other)
    (overlooks : start.Overlooks free masked count) (within : done ≤ count) :
    other.after done =
      { start.after done with ram := other.ram.writeAll (start.writes done) } := by
  induction done with
  | zero => exact differs.eq_withRam
  | succ done ih =>
    have same := same_of_overlooks differs overlooks within
    rw [after_succ, ih (Nat.le_of_lt within), next_withRam same, after_succ, writes_succ]
    rw [show other.ram.writeAll (start.writes done ++ _) = _ from List.foldl_append]
    rfl

/-- What is read before it is written decides the reports of the steps, up to the code bytes in the
trace of a fault. -/
theorem status_differing (differs : start.DiffersIn free masked other)
    (overlooks : start.Overlooks free masked count) (here : done < count) :
    (other.after done).status =
      (start.after done).status.showing (other.after done).trace.bytes := by
  rw [after_differing differs overlooks (Nat.le_of_lt here)]
  exact status_withRam (same_of_overlooks differs overlooks here)

theorem device_differing {δ : Type u} [Device δ] (differs : start.DiffersIn free masked other)
    (overlooks : start.Overlooks free masked count) (device : δ) (within : done ≤ count) :
    (Computer.after ⟨other, device⟩ done).device =
      (Computer.after ⟨start, device⟩ done).device := by
  have printed : ∀ earlier ∈ List.range done,
      (other.after earlier).printing? = (start.after earlier).printing? := by
    intro earlier inside
    have here := Nat.lt_of_lt_of_le (List.mem_range.mp inside) within
    rw [after_differing differs overlooks (Nat.le_of_lt here)]
    exact printing?_withRam (same_of_overlooks differs overlooks here)
  rw [Computer.device_after, Computer.device_after, List.filterMap_congr printed]

/-- **Only bytes that are read influence a run.** If a run overlooks the cells in which another
machine differs from its own, the other one makes the same steps: they report the same, up to the
code bytes in the trace of a fault, and lead to the same program counter, registers, flags and
devices. In the end the memories agree in all other cells, and in those that the run has written. -/
theorem runs_alike (differs : start.DiffersIn free masked other)
    (overlooks : start.Overlooks free masked count) :
    (∀ done < count, (other.after done).status =
        (start.after done).status.showing (other.after done).trace.bytes) ∧
      (∀ done ≤ count, (other.after done).pc = (start.after done).pc ∧
        (other.after done).registers = (start.after done).registers ∧
        (other.after done).flags = (start.after done).flags ∧
        ∀ (δ : Type u) [Device δ] (device : δ),
          (Computer.after ⟨other, device⟩ done).device =
            (Computer.after ⟨start, device⟩ done).device) ∧
      ∀ address, address ∉ free ∧ address ∉ masked ∨ address ∈ start.written count →
        (other.after count).ram.get address = (start.after count).ram.get address := by
  refine ⟨fun done here => status_differing differs overlooks here, fun done within => ?_,
    fun address known => ?_⟩
  · have reached := after_differing differs overlooks within
    refine ⟨?_, ?_, ?_, fun δ _ device => device_differing differs overlooks device within⟩
    · rw [reached]
    · rw [reached]
    · rw [reached]
  · rw [after_differing differs overlooks (Nat.le_refl count), ram_after]
    refine (get_writeAll_congr ?_).symm
    rcases known with ⟨notFree, notMasked⟩ | written
    · exact .inr (differs.elsewhere address notFree notMasked)
    · exact .inl written

/-- Loads 5, pushes it, pops it into another register and prints that one; the next byte is no
opcode. -/
def movesByStack : Machine :=
  { Machine.boot with
    ram := Ram.zero.overlay [0x82, 0, 5, 0x45, 0, 0x46, 1, 0x47, 1, 0xff] }

/-- The same program, with other high bits in a register operand, another byte behind the program
and another one where the push goes. -/
def movesByStack' : Machine :=
  { movesByStack with ram := ((movesByStack.ram.set 1 0xf8).set 10 7).set 0xf3 9 }

theorem differsIn_movesByStack : movesByStack.DiffersIn {10, 0xf3} {1} movesByStack' where
  pc := rfl
  registers := rfl
  flags := rfl
  elsewhere := fun address notFree notMasked => by
    rw [Set.mem_insert_iff, Set.mem_singleton_iff, not_or] at notFree
    rw [Set.mem_singleton_iff] at notMasked
    show _ = (((movesByStack.ram.set 1 0xf8).set 10 7).set 0xf3 9).get address
    rw [Ram.get_set, Ram.get_set, Ram.get_set, if_neg notFree.2, if_neg notFree.1, if_neg notMasked]
  lowBits := by
    rintro address rfl
    decide +kernel

/-- The fault is the same but for the byte behind it, and so is what was printed before. -/
theorem movesByStack_alike :
    movesByStack.Overlooks {10, 0xf3} {1} 5 ∧
      (movesByStack'.after 4).status = (movesByStack.after 4).status.showing #v[0xff, 7, 0] ∧
      (movesByStack.after 4).trace.bytes = #v[0xff, 0, 0] ∧
      (Computer.after ⟨movesByStack', (#[] : Array UInt8)⟩ 5).device = #[5] ∧
      (movesByStack'.after 5).ram.get 0xf3 = 5 := by
  have overlooks : movesByStack.Overlooks {10, 0xf3} {1} 5 := by
    simp only [Overlooks, Set.mem_insert_iff, Set.mem_singleton_iff]
    decide +kernel
  obtain ⟨reports, reached, memory⟩ := runs_alike.{0} differsIn_movesByStack overlooks
  have fault := reports 4 (by decide)
  obtain ⟨-, -, -, device⟩ := reached 5 (Nat.le_refl 5)
  refine ⟨overlooks, ?_, by decide +kernel, ?_, ?_⟩
  · rw [fault]
    decide +kernel
  · rw [device]
    decide +kernel
  · rw [memory 0xf3 (.inr (by decide +kernel))]
    decide +kernel

end Machine

end ByteMachine
