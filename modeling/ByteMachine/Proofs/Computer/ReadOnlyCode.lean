/-
**Code that is not written may as well be read-only.**

A computer with its code apart (`Split`) fetches from a memory that nothing writes; the other
memory is for the stack and for traces. Run beside a computer, it starts with a copy of that one's
memory for its code.

* `Machine.Unmodified`: no step reads code from a cell that an earlier step has written. A push may
  still write over itself, since it is read before.
* `step_of_same`: one step on code that memory still agrees with.
* `split_agrees`: **on unmodified code the two run alike**, by induction on the steps.
-/

import ByteMachine.Proofs.Computer.Course
import ByteMachine.Proofs.Machine.Footprint

namespace ByteMachine

universe u

/-- A computer with its code apart. -/
structure Split (δ : Type u) where
  code : Ram
  /-- Its memory holds the stack. -/
  computer : Computer δ

/-- No step reads code from a cell that an earlier step has written. -/
def Machine.Unmodified (start : Machine) (count : Nat) : Prop :=
  ∀ done < count, ∀ read ∈ (start.after done).codeReads, read.address ∉ start.written done

/-- The computer with its memory copied for its code. -/
def Computer.split {δ : Type u} (computer : Computer δ) : Split δ :=
  ⟨computer.machine.ram, computer⟩

namespace Split

variable {δ : Type u} [Device δ] {split : Split δ} {start : Computer δ} {count done : Nat}

/-- Fetches an instruction from the code and executes it on the memory. -/
def step (split : Split δ) : Status × Split δ :=
  let machine := split.computer.machine
  match split.code.fetch? machine.pc with
  | none => (.faulted (.badInstruction (split.code.get machine.pc) machine.trace), split)
  | some .halt => (.halted, split)
  | some instruction =>
    (.running, { split with
      computer := ⟨machine.execute instruction,
        Device.accept split.computer.device (machine.printed? instruction)⟩ })

/-- The computer after some steps. -/
def after (split : Split δ) (count : Nat) : Split δ := (fun split => split.step.2)^[count] split

theorem after_succ (split : Split δ) (count : Nat) :
    split.after (count + 1) = (split.after count).step.2 :=
  Function.iterate_succ_apply' (fun split : Split δ => split.step.2) count split

/-- **A step is the computer's own**, if its memory holds what the code does where it reads code. -/
theorem step_of_same
    (same : ∀ read ∈ split.computer.machine.codeReads,
      split.computer.machine.ram.get read.address = split.code.get read.address) :
    split.step = (split.computer.status, ⟨split.code, split.computer.next⟩) := by
  obtain ⟨code, machine, device⟩ := split
  have fetched : machine.ram.fetch? machine.pc = code.fetch? machine.pc :=
    fetch?_congr fun read found => read.use.same_of_eq (same read found)
  have opcode : machine.ram.get machine.pc = code.get machine.pc :=
    same ⟨machine.pc, .whole⟩ List.mem_cons_self
  rw [Computer.status, Computer.next, Computer.step, Machine.step, step, ← fetched, ← opcode]
  cases machine.ram.fetch? machine.pc with
  | none => rfl
  | some instruction => cases instruction <;> rfl

/-- In unmodified code a step finds what the start had there. -/
theorem same_of_unmodified {machine : Machine} (unmodified : machine.Unmodified count)
    (here : done < count) :
    ∀ read ∈ (machine.after done).codeReads,
      (machine.after done).ram.get read.address = machine.ram.get read.address :=
  fun read found => Machine.get_after_of_not_written (unmodified done here read found)

theorem step_after (unmodified : start.machine.Unmodified count) (here : done < count)
    (reached : start.split.after done = ⟨start.machine.ram, start.after done⟩) :
    (start.split.after done).step =
      ((start.after done).status, ⟨start.machine.ram, (start.after done).next⟩) := by
  rw [reached]
  refine step_of_same ?_
  rw [Computer.machine_after]
  exact same_of_unmodified unmodified here

theorem after_split (unmodified : start.machine.Unmodified count) (within : done ≤ count) :
    start.split.after done = ⟨start.machine.ram, start.after done⟩ := by
  induction done with
  | zero => rfl
  | succ done ih =>
    rw [after_succ, step_after unmodified within (ih (Nat.le_of_lt within)), Computer.after_succ]

/-- **On unmodified code a computer runs as with read-only code.** After so many steps its machine
and its device are the same, and each step reports the same. -/
theorem split_agrees (unmodified : start.machine.Unmodified count) :
    (∀ done ≤ count, start.split.after done = ⟨start.machine.ram, start.after done⟩) ∧
      ∀ done < count, (start.split.after done).step =
        ((start.after done).status, ⟨start.machine.ram, (start.after done).next⟩) :=
  ⟨fun _ within => after_split unmodified within,
    fun _ here => step_after unmodified here (after_split unmodified (Nat.le_of_lt here))⟩

/-- A push that writes over its own opcode, a print of the stack pointer, and a halt. -/
def pushesOverItself : Computer (Array UInt8) :=
  ⟨{ Machine.boot with
      ram := Ram.zero.overlay [0x45, 0, 0x47, 7, 0x01]
      registers := Registers.boot.set .stackPointer 1 }, #[]⟩

/-- The push is in the code to the end, and no longer in memory. -/
theorem pushesOverItself_agrees :
    pushesOverItself.machine.Unmodified 3 ∧
      pushesOverItself.split.after 3 =
        ⟨pushesOverItself.machine.ram, pushesOverItself.after 3⟩ ∧
      (pushesOverItself.split.after 2).step.1 = .halted ∧
      (pushesOverItself.split.after 3).code.get 0 = 0x45 ∧
      (pushesOverItself.split.after 3).computer.machine.ram.get 0 = 0 ∧
      (pushesOverItself.split.after 3).computer.device = #[0] := by
  have unmodified : pushesOverItself.machine.Unmodified 3 := by
    unfold Machine.Unmodified
    decide +kernel
  obtain ⟨reached, reports⟩ := split_agrees unmodified
  have last := reached 3 (Nat.le_refl 3)
  have halt := reports 2 (by decide)
  refine ⟨unmodified, last, ?_, ?_, ?_, ?_⟩
  · rw [halt]
    decide +kernel
  · rw [last]
    decide +kernel
  · rw [last]
    decide +kernel
  · rw [last]
    decide +kernel

end Split

end ByteMachine
