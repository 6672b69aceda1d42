/-
**Bytes that memory lacks rule things out for good.**

Jumps and returns lead anywhere, so any byte may come to be executed as an opcode, operands
included. But an instruction that is fetched starts with a byte of memory (`get_of_current?`), and
only a push and a call write there. A memory without their two bytes never changes, and whatever
other opcodes it lacks are lacking in every run from it.

* `ram_after_of_unwritable`: **memory without pushes and calls never changes**, by induction on the
  steps.
* `current?_ne_of_lacks`: an opcode that memory lacks is never fetched.
* `exists_settled_resume`: a run under any monitor ends at a machine of the machine's own course.
* `absences_confine`: **what the missing bytes rule out**, at every step and for every run.
-/

import ByteMachine.Proofs.Computer.Guarded
import ByteMachine.Proofs.Machine.Comparisons
import ByteMachine.Proofs.Machine.Depth

namespace ByteMachine

universe u v

/-! ### What memory lacks -/

namespace Ram

/-- No cell holds the byte. -/
def Lacks (ram : Ram) (code : UInt8) : Prop := ∀ address, ram.get address ≠ code

/-- Every cell holds an opcode. -/
def AllOpcodes (ram : Ram) : Prop := ∀ address, Opcode.decode? (ram.get address) ≠ none

/-- No cell holds a push or a call. -/
structure Unwritable (ram : Ram) : Prop where
  push : ram.Lacks 0x45
  call : ram.Lacks 0x50

/-- A program laid over memory brings in its own bytes and no others. -/
theorem forall_get_overlay (holds : UInt8 → Prop) {ram : Ram} {program : List UInt8}
    (brought : ∀ code ∈ program, holds code) (kept : ∀ address, holds (ram.get address))
    (address : UInt8) : holds ((ram.overlay program).get address) := by
  rw [get_overlay]
  cases found : program[address.toNat]? with
  | none => exact kept address
  | some code => exact brought code (List.mem_of_getElem? found)

end Ram

/-- The opcode that an instruction starts with. -/
def Instruction.opcode : Instruction → Opcode
  | .halt => .halt
  | .ret => .ret
  | .push _ => .push
  | .pop _ => .pop
  | .print _ => .print
  | .call _ => .call
  | .jump _ => .jump
  | .jumpEqual _ => .jumpEqual
  | .jumpUnequal _ => .jumpUnequal
  | .load _ _ => .load
  | .alu operation _ _ => .alu operation

namespace Machine

/-- **What the bytes that memory lacks at the start rule out for a machine** that some run from
there has come to. -/
structure Confined (start here : Machine) : Prop where
  ram : here.ram = start.ram
  /-- Nothing is printed by the step from here. -/
  silent : start.ram.Lacks 0x47 → here.output? = none
  flags : start.ram.Lacks 0xa7 → here.flags = start.flags
  goesOn : start.ram.Lacks 0x01 → here.status ≠ .halted
  faultless : start.ram.AllOpcodes → ∀ fault, here.status ≠ .faulted fault

variable {start machine : Machine} {instruction : Instruction} {count : Nat}

/-! ### What is fetched -/

theorem opcode_withOperands (opcode : Opcode) (first second : UInt8) :
    (opcode.withOperands first second).opcode = opcode := by
  cases opcode <;> rfl

/-- **An instruction that is fetched starts with a byte of memory.** -/
theorem get_of_current? (found : machine.current? = some instruction) :
    machine.ram.get machine.pc = instruction.opcode.byte := by
  rw [current?, Ram.fetch?, Option.map_eq_some_iff] at found
  obtain ⟨opcode, decoded, rfl⟩ := found
  rw [opcode_withOperands, Opcode.decode?_eq_some_iff.mp decoded]

/-- Only two opcodes write. -/
theorem gives_eq_false_of_unwritable (unwritable : machine.ram.Unwritable)
    (found : machine.current? = some instruction) : instruction.gives = false := by
  have code := get_of_current? found
  cases instruction with
  | push source => exact absurd code (unwritable.push machine.pc)
  | call address => exact absurd code (unwritable.call machine.pc)
  | _ => rfl

/-! ### Steps -/

/-- **Memory without pushes and calls never changes.** -/
theorem ram_after_of_unwritable (unwritable : start.ram.Unwritable) (count : Nat) :
    (start.after count).ram = start.ram := by
  induction count with
  | zero => rfl
  | succ count ih =>
    have still : (start.after count).ram.Unwritable := ih ▸ unwritable
    rw [after_succ, ram_next_of_not_gives fun _ found => gives_eq_false_of_unwritable still found,
      ih]

/-- An opcode that memory lacks is never fetched. -/
theorem current?_ne_of_lacks (unwritable : start.ram.Unwritable) (instruction : Instruction)
    (lacks : start.ram.Lacks instruction.opcode.byte) (count : Nat) :
    (start.after count).current? ≠ some instruction := by
  intro found
  have code := get_of_current? found
  rw [ram_after_of_unwritable unwritable] at code
  exact lacks _ code

theorem output?_eq_none (unwritable : start.ram.Unwritable) (lacks : start.ram.Lacks 0x47)
    (count : Nat) : (start.after count).output? = none := by
  cases found : (start.after count).current? with
  | none => exact output?_of_stuck (stuck_of_missing found)
  | some instruction =>
    by_cases stops : instruction = .halt
    · subst stops
      rw [output?, step_of_fetch?_eq_halt found]
    · rw [output?, step_of_fetch?_eq_some found stops]
      cases instruction with
      | print source =>
        exact absurd found (current?_ne_of_lacks unwritable (.print source) lacks count)
      | _ => rfl

theorem compared?_eq_none (unwritable : start.ram.Unwritable) (lacks : start.ram.Lacks 0xa7)
    (count : Nat) : (start.after count).compared? = none := by
  unfold compared?
  split
  · rename_i first second found
    exact absurd found (current?_ne_of_lacks unwritable (.alu .compare first second) lacks count)
  · rfl

theorem flags_after_of_lacks (unwritable : start.ram.Unwritable) (lacks : start.ram.Lacks 0xa7)
    (count : Nat) : (start.after count).flags = start.flags := by
  induction count with
  | zero => rfl
  | succ count ih => rw [after_succ, flags_next, compared?_eq_none unwritable lacks, ih]

/-- **What the missing bytes rule out along a course.** -/
theorem confined_after (unwritable : start.ram.Unwritable) (count : Nat) :
    start.Confined (start.after count) where
  ram := ram_after_of_unwritable unwritable count
  silent := fun lacks => output?_eq_none unwritable lacks count
  flags := fun lacks => flags_after_of_lacks unwritable lacks count
  goesOn := fun lacks halted => by
    have code := status_eq_halted_iff.mp halted
    rw [ram_after_of_unwritable unwritable] at code
    exact lacks _ code
  faultless := fun opcodes fault faulted => by
    have missing := (status_eq_faulted_iff.mp faulted).1
    rw [ram_after_of_unwritable unwritable] at missing
    exact opcodes _ missing

end Machine

namespace Computer

variable {σ : Type v} {δ : Type u} [Device δ] {start : Computer δ} {monitor : Monitor σ δ}

/-- **What the missing bytes rule out for a run** that ended so at this computer. -/
structure Confines (start : Computer δ) (exit : Exit) (final : Computer δ) : Prop where
  machine : start.machine.Confined final.machine
  unhalted : start.machine.ram.Lacks 0x01 → exit ≠ .halted
  faultless : start.machine.ram.AllOpcodes → ∀ fault, exit ≠ .faulted fault

/-- A run under any monitor ends at a machine of the machine's own course. -/
theorem exists_settled_resume (monitor : Monitor σ δ) (remaining : Nat) (observer : σ)
    (start : Computer δ) :
    ∃ count,
      (resume monitor remaining ⟨0, observer, start⟩).computer.machine =
          start.machine.after count ∧
        Settled (resume monitor remaining ⟨0, observer, start⟩) := by
  have machines := Monitor.machine_pollAfter monitor observer start
  rcases resume_cases monitor remaining ⟨0, observer, start⟩ with
    ⟨exhausted, -⟩ | ⟨last, -, -, concludes⟩
  · rw [exhausted]
    exact ⟨remaining + 1, machines (remaining + 1), .inr (.inl rfl)⟩
  · refine ⟨last, ?_, settled_of_concludes concludes⟩
    rw [concludes.computer]
    exact machines last

/-- A device that nothing is printed to stays what it is. -/
theorem device_after_of_lacks (unwritable : start.machine.ram.Unwritable)
    (lacks : start.machine.ram.Lacks 0x47) (count : Nat) :
    (start.after count).device = start.device := by
  induction count with
  | zero => rfl
  | succ count ih =>
    rw [after_succ, next, step_eq, machine_after,
      Machine.output?_eq_none unwritable lacks]
    exact ih

/-- A run that has come to a machine of the course ends as that machine's status says, or without
a claim on it. -/
theorem confines_of_after {exit : Exit} {final : Computer δ} {count : Nat}
    (unwritable : start.machine.ram.Unwritable)
    (arrives : final.machine = start.machine.after count)
    (ends : exit = .stopped ∨ exit = .exhausted ∨ final.status.exit? = some exit) :
    Confines start exit final := by
  have confined : start.machine.Confined final.machine :=
    arrives ▸ Machine.confined_after unwritable count
  refine ⟨confined, ?_, ?_⟩
  · rintro lacks rfl
    have reported : final.status = .halted :=
      Status.eq_of_exit? (by simpa using ends) rfl
    rw [status_eq] at reported
    exact confined.goesOn lacks reported
  · rintro opcodes fault rfl
    have reported : final.status = .faulted fault :=
      Status.eq_of_exit? (by simpa using ends) rfl
    rw [status_eq] at reported
    exact confined.faultless opcodes fault reported

/-- **Opcodes that memory lacks rule things out for good.** If no byte of memory is a push or a
call, memory never changes, whatever the program counter, the registers and the flags. So without a
print nothing is ever printed, without a comparison the flags stay, without a halt no step halts,
and if all bytes are opcodes no step faults. That is so after any number of steps, and for runs to
an end, with a monitor or without. -/
theorem absences_confine (start : Computer δ) (noPush : start.machine.ram.Lacks 0x45)
    (noCall : start.machine.ram.Lacks 0x50) :
    (∀ count, start.machine.Confined (start.after count).machine ∧
        (start.machine.ram.Lacks 0x47 → (start.after count).device = start.device)) ∧
      (∀ fuel exit final, run? fuel start = some (exit, final) →
        Confines start exit final ∧
          (start.machine.ram.Lacks 0x47 → final.device = start.device)) ∧
      ∀ (monitor : Monitor σ δ) observer,
        Confines start (runUntil monitor observer start).exit
            (runUntil monitor observer start).computer ∧
          (monitor.KeepsDevice → start.machine.ram.Lacks 0x47 →
            (runUntil monitor observer start).computer.device = start.device) := by
  have unwritable : start.machine.ram.Unwritable := ⟨noPush, noCall⟩
  refine ⟨fun count => ⟨?_, fun lacks => device_after_of_lacks unwritable lacks count⟩,
    fun fuel exit final ended => ?_, fun monitor observer => ⟨?_, fun keeps lacks => ?_⟩⟩
  · rw [machine_after]
    exact Machine.confined_after unwritable count
  · obtain ⟨count, reaches, ends⟩ := run?_reaches ended
    rw [reaches.arrives] at ends ⊢
    exact ⟨confines_of_after unwritable (machine_after start count) (.inr (.inr ends)),
      fun lacks => device_after_of_lacks unwritable lacks count⟩
  · obtain ⟨count, arrives, settled⟩ := exists_settled_resume monitor countLimit observer start
    exact confines_of_after unwritable arrives settled
  · obtain ⟨count, reaches, -⟩ := runFrom_reaches keeps countLimit 0 observer start
    have arrives : (runUntil monitor observer start).computer = start.after count :=
      reaches.arrives
    rw [arrives]
    exact device_after_of_lacks unwritable lacks count

/-- Memory that takes values off the stack wherever it is entered. -/
def pops : Ram := ⟨Vector.replicate 256 0x46⟩

/-- Loads a register with an address and jumps there. The address is also the code of every operand.
-/
def jumpsTo (code : UInt8) : Computer (Array UInt8) :=
  ⟨{ Machine.boot with ram := pops.overlay [0x82, code, code, 0x54, code] }, #[]⟩

theorem forall_get_jumpsTo (holds : UInt8 → Bool) {code : UInt8}
    (each : [0x46, 0x82, code, code, 0x54, code].all holds = true) (address : UInt8) :
    holds ((jumpsTo code).machine.ram.get address) = true := by
  obtain ⟨pop, program⟩ := List.forall_mem_cons.mp (List.all_eq_true.mp each)
  have kept : ∀ address, holds (pops.get address) = true := by
    intro address
    have filled : pops.get address = 0x46 := by simp [pops, Ram.get]
    rwa [filled]
  exact Ram.forall_get_overlay (fun byte => holds byte = true) program kept address

/-- One address leads to an operand that is a halt, and the other round all of memory for ever. -/
theorem jumpsTo_confined :
    (∀ fault, ((jumpsTo 0x01).after 2).status ≠ .faulted fault) ∧
      run? 3 (jumpsTo 0x01) = some (.halted, (jumpsTo 0x01).after 2) ∧
      ((jumpsTo 0x01).after 2).machine.ram = (jumpsTo 0x01).machine.ram ∧
      ((jumpsTo 0x01).after 2).device = #[] ∧
      ((jumpsTo 0xa0).after 1000).machine.flags = .clear ∧
      ((jumpsTo 0xa0).after 1000).machine.status ≠ .halted ∧
      (runUntil (Monitor.limit 1000) () (jumpsTo 0xa0)).exit ≠ .halted ∧
      (runUntil (Monitor.limit 1000) () (jumpsTo 0xa0)).computer.device = #[] := by
  have lacks : ∀ code missing : UInt8,
      [0x46, 0x82, code, code, 0x54, code].all (· != missing) = true →
        (jumpsTo code).machine.ram.Lacks missing :=
    fun code missing each address => bne_iff_ne.mp (forall_get_jumpsTo _ each address)
  have opcodes : (jumpsTo 0x01).machine.ram.AllOpcodes := by
    intro address
    rw [← Option.isSome_iff_ne_none]
    exact forall_get_jumpsTo (fun byte => (Opcode.decode? byte).isSome) (by decide) address
  obtain ⟨-, runs, -⟩ := absences_confine (σ := Unit) (jumpsTo 0x01)
    (lacks 0x01 0x45 (by decide)) (lacks 0x01 0x50 (by decide))
  obtain ⟨forever, -, watched⟩ := absences_confine (σ := Unit) (jumpsTo 0xa0)
    (lacks 0xa0 0x45 (by decide)) (lacks 0xa0 0x50 (by decide))
  have ended : run? 3 (jumpsTo 0x01) = some (.halted, (jumpsTo 0x01).after 2) := by
    have first : (jumpsTo 0x01).status = .running := by decide +kernel
    have second : (jumpsTo 0x01).next.status = .running := by decide +kernel
    have third : ((jumpsTo 0x01).after 2).status.exit? = some .halted := by decide +kernel
    exact (run?_of_running first).trans ((run?_of_running second).trans (run?_of_exit? third))
  obtain ⟨confines, printed⟩ := runs 3 _ _ ended
  obtain ⟨confined, -⟩ := forever 1000
  obtain ⟨limited, kept⟩ := watched (Monitor.limit 1000) ()
  have keeps : (Monitor.limit 1000 : Monitor Unit (Array UInt8)).KeepsDevice := fun _ _ _ _ => rfl
  have unhalted := lacks 0xa0 0x01 (by decide)
  refine ⟨fun fault => ?_, ended, confines.machine.ram,
    printed (lacks 0x01 0x47 (by decide)),
    confined.flags (lacks 0xa0 0xa7 (by decide)), confined.goesOn unhalted,
    limited.unhalted unhalted, kept keeps (lacks 0xa0 0x47 (by decide))⟩
  rw [status_eq]
  exact confines.machine.faultless opcodes fault

end Computer

end ByteMachine
