/-
**The flags over the whole life of a machine.**

A machine is booted, and from then on its host calls what it likes: it loads programs, writes memory
and registers, moves the program counter, and steps and runs the machine with any devices and under
any monitors. `HostCall` is one such call, and `Lived` the machine that they lead to, each with the
comparisons executed on the way.

* `eq_after_of_run?`, `machine_runUntil`: a run leads where its steps lead.
* `flags_of_call`: **a call leaves its latest comparison in the flags.** `flags_of_lived`: so does a
  life, by induction on its calls.
* `told_of_lived`: the flags, and where the jumps on them lead, in every state of every life.
-/

import ByteMachine.Proofs.Computer.Guarded
import ByteMachine.Proofs.Machine.Comparisons

namespace ByteMachine

universe u v

/-- How many instructions a run under a monitor executes: one behind each poll but the last. -/
def Computer.executed {σ : Type v} {δ : Type u} [Device δ] (monitor : Monitor σ δ) (observer : σ)
    (start : Computer δ) : Nat :=
  (runUntil monitor.recorded (observer, []) start).observer.2.length - 1

/-- **A call of the host that returns**: the comparisons executed in it, and the machine that it
leaves behind. -/
inductive HostCall (machine : Machine) : List (UInt8 × UInt8) → Machine → Prop where
  /-- A program that is too large changes nothing. -/
  | load (program : List UInt8) : HostCall machine [] ((machine.load program).toOption.getD machine)
  | writeRam (address : Nat) (value : UInt8) : HostCall machine [] (machine.writeRam address value)
  | moveTo (address : UInt8) : HostCall machine [] (machine.moveTo address)
  | writeRegister {index : Nat} {value : UInt8} {next : Machine} :
      machine.writeRegister index value = .ok next → HostCall machine [] next
  | step {δ : Type u} [Device δ] (device : δ) :
      HostCall machine (machine.comparisons 1) (Computer.mk machine device).step.2.machine
  /-- Where a run is over, further steps execute nothing: its fuel may stand for their number. -/
  | run {δ : Type u} [Device δ] {device : δ} {fuel : Nat} {exit : Exit} {final : Computer δ} :
      Computer.run? fuel ⟨machine, device⟩ = some (exit, final) →
        HostCall machine (machine.comparisons fuel) final.machine
  | runUntil {σ : Type v} {δ : Type u} [Device δ] (monitor : Monitor σ δ) (observer : σ)
      (device : δ) :
      (Computer.runUntil monitor observer ⟨machine, device⟩).exit ≠ .exhausted →
        HostCall machine
          (machine.comparisons (Computer.executed monitor observer ⟨machine, device⟩))
          (Computer.runUntil monitor observer ⟨machine, device⟩).computer.machine

/-- **A machine that was booted, with all comparisons executed since then.** -/
inductive Lived : List (UInt8 × UInt8) → Machine → Prop where
  | boot : Lived [] .boot
  | call {history executed : List (UInt8 × UInt8)} {machine next : Machine} :
      Lived history machine → HostCall.{u, v} machine executed next →
        Lived (history ++ executed) next

namespace Computer

variable {σ : Type v} {δ : Type u} [Device δ] {monitor : Monitor σ δ} {observer : σ}
  {start final : Computer δ} {exit : Exit}

/-! ### Where runs lead -/

/-- A run is over within its fuel, and a computer that does not go on stays what it is. -/
theorem eq_after_of_run? {fuel : Nat} (ended : run? fuel start = some (exit, final)) :
    final = start.after fuel := by
  induction fuel generalizing start with
  | zero => cases ended
  | succ fuel ih =>
    by_cases running : start.status = .running
    · rw [run?_of_running running] at ended
      rw [after_succ', ih ended]
    · obtain ⟨stop, ends⟩ := Status.exists_exit? running
      rw [run?_of_exit? ends] at ended
      cases ended
      exact (Function.iterate_fixed (next_of_stuck running) (fuel + 1)).symm

theorem executed_of_guarded {last : Nat} {outcome : Outcome σ δ}
    (guarded : Guarded monitor observer start last outcome) :
    executed monitor observer start = last := by
  rw [executed, guarded.record, List.length_map, List.length_range, Nat.add_sub_cancel]

/-- A run under a monitor leads where the executed instructions lead. -/
theorem machine_runUntil (returns : (runUntil monitor observer start).exit ≠ .exhausted) :
    (runUntil monitor observer start).computer.machine =
      start.machine.after (executed monitor observer start) := by
  rcases exhausted_or_guarded monitor observer start with ⟨exhausted, -⟩ | ⟨last, -, guarded⟩
  · exact absurd exhausted returns
  · rw [executed_of_guarded guarded, guarded.concludes.computer]
    exact guarded.machines last (Nat.le_refl last)

end Computer

variable {history executed : List (UInt8 × UInt8)} {machine next : Machine}

/-! ### One call -/

theorem Machine.flags_load (machine : Machine) (program : List UInt8) :
    ((machine.load program).toOption.getD machine).flags = machine.flags := by
  by_cases fits : program.length ≤ Ram.size
  · rw [Machine.load_of_le fits]
    simp only [Except.toOption, Option.getD_some]
  · rw [Machine.load_of_lt (Nat.lt_of_not_le fits)]
    simp only [Except.toOption, Option.getD_none]

theorem Machine.flags_writeRegister {index : Nat} {value : UInt8}
    (written : machine.writeRegister index value = .ok next) : next.flags = machine.flags := by
  unfold Machine.writeRegister at written
  cases stored : machine.registers.write index value with
  | error missing =>
    rw [stored] at written
    cases written
  | ok registers =>
    rw [stored] at written
    cases written
    rfl

/-- **A call leaves its latest comparison in the flags**, and none of its own leaves them alone. -/
theorem flags_of_call (known : machine.flags = .latest history)
    (call : HostCall.{u, v} machine executed next) :
    next.flags = .latest (history ++ executed) := by
  cases call with
  | load program => rw [Machine.flags_load, known, List.append_nil]
  | writeRam address value =>
    rw [List.append_nil]
    exact known
  | moveTo address =>
    rw [List.append_nil]
    exact known
  | writeRegister written => rw [Machine.flags_writeRegister written, known, List.append_nil]
  | step device =>
    rw [Computer.step_eq]
    exact Machine.flags_after known 1
  | @run δ _ device fuel exit final ended =>
    rw [Computer.eq_after_of_run? ended, Computer.machine_after]
    exact Machine.flags_after known fuel
  | runUntil monitor observer device returns =>
    rw [Computer.machine_runUntil returns]
    exact Machine.flags_after known _

/-! ### A life -/

/-- **The flags are the latest comparison of a life.** -/
theorem flags_of_lived (lived : Lived.{u, v} history machine) :
    machine.flags = .latest history := by
  induction lived with
  | boot => rfl
  | call _ call known => exact flags_of_call known call

/-- **Flags are exactly the history of comparisons.** Whatever the host called since the boot, and
however many steps follow, the flags are those of the latest comparison, or clear without one, and
every jump on them is taken or not by what that comparison found. -/
theorem told_of_lived (lived : Lived.{u, v} history machine) (count : Nat) :
    Machine.Told (history ++ machine.comparisons count) (machine.after count) :=
  Machine.told_of_flags (Machine.flags_after (flags_of_lived lived) count)

/-- Compares registers 0 and 1, jumps by register 2 if they are equal, and halts if not. -/
def comparing : Machine := (Machine.boot.load [0xa7, 0, 1, 0x55, 2, 0x01]).toOption.getD .boot

/-- Stopped between the comparison and the jump, and register 0 written then. -/
def raised : Machine :=
  let stopped := Computer.runUntil (.limit 1) () ⟨comparing, Silent.mk⟩
  { stopped.computer.machine with
    registers := stopped.computer.machine.registers.set (.ofByte 0) 5 }

/-- The jump goes by the values that were compared, not by those that the registers hold. In the
next round they differ, and it is not taken. -/
theorem raised_told :
    Lived.{0, 0} [(0, 0)] raised ∧ raised.step = .running (raised.moveTo 0) none ∧
      raised.comparisons 2 = [(5, 0)] ∧ (raised.after 2).flags.bits = 2 ∧
      (raised.after 2).step = .running ((raised.after 2).moveTo 5) none := by
  have lived : Lived.{0, 0} [(0, 0)] raised := by
    have loaded : Lived.{0, 0} [] comparing := .call .boot (.load _)
    have stopped := loaded.call (.runUntil (.limit 1) () Silent.mk (by decide +kernel))
    have compared : comparing.comparisons
        (Computer.executed (.limit 1) () ⟨comparing, Silent.mk⟩) = [(0, 0)] := by decide +kernel
    rw [compared] at stopped
    have written : Machine.writeRegister _ 0 5 = .ok raised := rfl
    exact stopped.call (.writeRegister written)
  have second : raised.comparisons 2 = [(5, 0)] := by decide +kernel
  -- Told right after the write, and two steps later, in front of the jump of the next round.
  have before := told_of_lived lived 0
  have later := told_of_lived lived 2
  rw [second] at later
  have known : (raised.after 2).flags.bits = 2 := by
    rw [later.flags]
    rfl
  have taken : raised.step = .running (raised.moveTo (raised.registers.get 2)) none :=
    before.jumpEqual 2 (by decide +kernel)
  have passed : (raised.after 2).step =
      .running ((raised.after 2).moveTo ((raised.after 2).pc + 2)) none :=
    later.jumpEqual 2 (by decide +kernel)
  have target : raised.registers.get 2 = 0 := by decide +kernel
  have behind : (raised.after 2).pc + 2 = 5 := by decide +kernel
  rw [target] at taken
  rw [behind] at passed
  exact ⟨lived, taken, second, known, passed⟩

end ByteMachine
