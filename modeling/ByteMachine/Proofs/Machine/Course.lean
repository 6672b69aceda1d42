/-
**The course of a machine: where it is after some steps.**

A step is total: one that halts or faults leaves the machine where it is. So the machine after
`count` steps is an iterate of `Machine.next`, whatever the steps report, and `Machine.status` says
what the step at each point reports.

* `status_eq_running_iff`: a step goes on when the program counter is at an instruction other than
  a halt, and then `next_of_current?` says where it leads.
* `status_eq_halted_iff`, `status_eq_faulted_iff`: the two other reports, by the byte at the program
  counter.
* `after_of_stuck`: **a machine that does not go on stays where it is**, however often it is
  stepped.
* `gathered_succ`: a list of what the steps do, one by one, grows at its end.
-/

import ByteMachine.Computer
import Mathlib.Logic.Function.Iterate

namespace ByteMachine.Machine

/-- What a step of the machine reports. -/
def status (machine : Machine) : Status :=
  match machine.step with
  | .running _ _ => .running
  | .halted => .halted
  | .faulted fault => .faulted fault

/-- The machine after a step; it is the same machine if the step does not go on. -/
def next (machine : Machine) : Machine :=
  match machine.step with
  | .running next _ => next
  | _ => machine

/-- The value that a step prints, if it prints one. -/
def output? (machine : Machine) : Option UInt8 :=
  match machine.step with
  | .running _ printed => printed
  | _ => none

/-- The machine after some steps. -/
def after (machine : Machine) (count : Nat) : Machine := next^[count] machine

/-- The instruction at the program counter. -/
def current? (machine : Machine) : Option Instruction := machine.ram.fetch? machine.pc

variable {machine : Machine}

/-! ### One step -/

theorem current?_eq_none_iff :
    machine.current? = none ↔ Opcode.decode? (machine.ram.get machine.pc) = none := by
  rw [current?, Ram.fetch?, Option.map_eq_none_iff]

/-- Only the halting opcode is a halt. -/
theorem current?_eq_halt_iff :
    machine.current? = some .halt ↔ machine.ram.get machine.pc = Opcode.halt.byte := by
  rw [current?, Ram.fetch?, Option.map_eq_some_iff]
  constructor
  · rintro ⟨opcode, decoded, instruction⟩
    rw [← Opcode.decode?_eq_some_iff.mp decoded]
    cases opcode with
    | halt => rfl
    | _ => cases instruction
  · intro code
    exact ⟨.halt, Opcode.decode?_eq_some_iff.mpr code.symm, rfl⟩

theorem status_of_current? {instruction : Instruction}
    (found : machine.current? = some instruction) (goes : instruction ≠ .halt) :
    machine.status = .running := by
  rw [status, step_of_fetch?_eq_some found goes]

theorem status_of_halt (found : machine.current? = some .halt) : machine.status = .halted := by
  rw [status, step_of_fetch?_eq_halt found]

theorem status_of_missing (missing : machine.current? = none) :
    machine.status =
      .faulted (.badInstruction (machine.ram.get machine.pc) machine.trace) := by
  rw [status, step_of_fetch?_eq_none missing]

theorem stuck_of_missing (missing : machine.current? = none) : machine.status ≠ .running := by
  rw [status_of_missing missing]
  simp

theorem status_eq_running_iff :
    machine.status = .running ↔
      ∃ instruction, machine.current? = some instruction ∧ instruction ≠ .halt := by
  constructor
  · intro running
    cases found : machine.current? with
    | none =>
      rw [status_of_missing found] at running
      cases running
    | some instruction =>
      refine ⟨instruction, rfl, ?_⟩
      rintro rfl
      rw [status_of_halt found] at running
      cases running
  · rintro ⟨instruction, found, goes⟩
    exact status_of_current? found goes

theorem status_eq_halted_iff :
    machine.status = .halted ↔ machine.ram.get machine.pc = Opcode.halt.byte := by
  rw [← current?_eq_halt_iff]
  refine ⟨fun halted => ?_, status_of_halt⟩
  cases found : machine.current? with
  | none =>
    rw [status_of_missing found] at halted
    cases halted
  | some instruction =>
    by_cases stops : instruction = .halt
    · rw [stops]
    · rw [status_of_current? found stops] at halted
      cases halted

/-- The one fault of a step is a byte that is no opcode, reported with a trace of the machine. -/
theorem status_eq_faulted_iff {fault : Fault} :
    machine.status = .faulted fault ↔
      Opcode.decode? (machine.ram.get machine.pc) = none ∧
        fault = .badInstruction (machine.ram.get machine.pc) machine.trace := by
  rw [← current?_eq_none_iff]
  constructor
  · intro faulted
    cases found : machine.current? with
    | none =>
      rw [status_of_missing found] at faulted
      cases faulted
      exact ⟨rfl, rfl⟩
    | some instruction =>
      by_cases stops : instruction = .halt
      · subst stops
        rw [status_of_halt found] at faulted
        cases faulted
      · rw [status_of_current? found stops] at faulted
        cases faulted
  · rintro ⟨missing, rfl⟩
    exact status_of_missing missing

theorem next_of_current? {instruction : Instruction}
    (found : machine.current? = some instruction) : machine.next = machine.execute instruction := by
  by_cases stops : instruction = .halt
  · subst stops
    rw [next, step_of_fetch?_eq_halt found]
    rfl
  · rw [next, step_of_fetch?_eq_some found stops]

theorem step_of_stuck (stuck : machine.status ≠ .running) :
    machine.step = .halted ∨ ∃ fault, machine.step = .faulted fault := by
  unfold status at stuck
  cases taken : machine.step with
  | running next printed =>
    rw [taken] at stuck
    exact absurd rfl stuck
  | halted => exact .inl rfl
  | faulted fault => exact .inr ⟨fault, rfl⟩

/-- A step that does not go on changes nothing. -/
theorem next_of_stuck (stuck : machine.status ≠ .running) : machine.next = machine := by
  rcases step_of_stuck stuck with halted | ⟨fault, faulted⟩
  · rw [next, halted]
  · rw [next, faulted]

theorem output?_of_stuck (stuck : machine.status ≠ .running) : machine.output? = none := by
  rcases step_of_stuck stuck with halted | ⟨fault, faulted⟩
  · rw [output?, halted]
  · rw [output?, faulted]

/-! ### Some steps -/

theorem after_succ (machine : Machine) (count : Nat) :
    machine.after (count + 1) = (machine.after count).next :=
  Function.iterate_succ_apply' next count machine

/-- **A machine that does not go on stays where it is.** -/
theorem after_of_stuck (stuck : machine.status ≠ .running) (count : Nat) :
    machine.after count = machine :=
  Function.iterate_fixed (next_of_stuck stuck) count

/-- What is gathered along a course grows at its end. -/
theorem gathered_succ {α : Type} (gather? : Machine → Option α) (machine : Machine) (count : Nat) :
    (List.range (count + 1)).filterMap (fun done => gather? (machine.after done)) =
      (List.range count).filterMap (fun done => gather? (machine.after done)) ++
        (gather? (machine.after count)).toList := by
  rw [List.range_succ, List.filterMap_append]
  cases found : gather? (machine.after count) <;> simp [found]

end ByteMachine.Machine
