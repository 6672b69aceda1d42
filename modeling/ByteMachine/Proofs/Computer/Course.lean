/-
**The course of a computer: its machine's, and the values printed on the way.**

A step of a computer is a step of its machine (`step_eq`), with what it prints given to the device.
So a computer's machine takes the machine's course (`machine_after`), and a computer that does not
go on stays what it is, its device included (`next_of_stuck`).

`Reaches` is the form in which runs are described: so many steps that all go on. A run steps to
the first that does not and stops there (`run?_of_running`, `run?_of_exit?`).
-/

import ByteMachine.Proofs.Machine.Course

namespace ByteMachine

universe u

/-- The end that a step's report makes of a run. -/
def Status.exit? : Status → Option Exit
  | .running => none
  | .halted => some .halted
  | .faulted fault => some (.faulted fault)

theorem Status.exit?_eq_none_iff {status : Status} : status.exit? = none ↔ status = .running := by
  cases status <;> simp [Status.exit?]

theorem Status.exists_exit? {status : Status} (stuck : status ≠ .running) :
    ∃ exit, status.exit? = some exit :=
  Option.ne_none_iff_exists'.mp (mt Status.exit?_eq_none_iff.mp stuck)

/-- A run's end is made of one report only. -/
theorem Status.eq_of_exit? {first second : Status} {exit : Exit} (one : first.exit? = some exit)
    (two : second.exit? = some exit) : first = second := by
  cases first <;> cases second <;> cases one <;> cases two <;> rfl

namespace Computer

variable {δ : Type u} [Device δ] {start computer final : Computer δ} {count fuel : Nat}

/-- What a step of the computer reports. -/
def status (computer : Computer δ) : Status := computer.step.1

/-- The computer after a step; it is the same computer if the step does not go on. -/
def next (computer : Computer δ) : Computer δ := computer.step.2

/-- The computer after some steps. -/
def after (computer : Computer δ) (count : Nat) : Computer δ := next^[count] computer

theorem step_eq_pair (computer : Computer δ) : computer.step = (computer.status, computer.next) :=
  rfl

/-- **A computer's step is its machine's**, and the device takes what it prints. -/
theorem step_eq (computer : Computer δ) :
    computer.step = (computer.machine.status, ⟨computer.machine.next,
      Device.accept computer.device computer.machine.output?⟩) := by
  unfold step Machine.status Machine.next Machine.output?
  cases computer.machine.step <;> rfl

theorem status_eq (computer : Computer δ) : computer.status = computer.machine.status := by
  rw [status, step_eq]

theorem machine_next (computer : Computer δ) : computer.next.machine = computer.machine.next := by
  rw [next, step_eq]

/-- An instruction that goes on is executed, and the device takes what it prints. -/
theorem next_of_current? {instruction : Instruction}
    (found : computer.machine.current? = some instruction) (goes : instruction ≠ .halt) :
    computer.status = .running ∧
      computer.next = ⟨computer.machine.execute instruction,
        Device.accept computer.device (computer.machine.printed? instruction)⟩ := by
  rw [status, next, step, Machine.step_of_fetch?_eq_some found goes]
  exact ⟨rfl, rfl⟩

/-- A step that does not go on changes and prints nothing. -/
theorem next_of_stuck (stuck : computer.status ≠ .running) : computer.next = computer := by
  rw [status_eq] at stuck
  rw [next, step_eq, Machine.next_of_stuck stuck, Machine.output?_of_stuck stuck]
  rfl

theorem after_succ (computer : Computer δ) (count : Nat) :
    computer.after (count + 1) = (computer.after count).next :=
  Function.iterate_succ_apply' next count computer

theorem after_succ' (computer : Computer δ) (count : Nat) :
    computer.after (count + 1) = computer.next.after count :=
  Function.iterate_succ_apply next count computer

theorem after_add (computer : Computer δ) (first second : Nat) :
    computer.after (first + second) = (computer.after first).after second := by
  rw [Nat.add_comm]
  exact Function.iterate_add_apply next second first computer

theorem after_of_stuck (stuck : computer.status ≠ .running) (count : Nat) :
    computer.after count = computer := by
  induction count with
  | zero => rfl
  | succ count ih => rw [after_succ, ih, next_of_stuck stuck]

theorem machine_after (computer : Computer δ) (count : Nat) :
    (computer.after count).machine = computer.machine.after count := by
  induction count with
  | zero => rfl
  | succ count ih => rw [after_succ, machine_next, ih, Machine.after_succ]

/-! ### Steps that all go on -/

/-- A computer is reached after so many steps, and each of them goes on. -/
structure Reaches (start : Computer δ) (count : Nat) (final : Computer δ) : Prop where
  running : ∀ done < count, (start.after done).status = .running
  arrives : final = start.after count

theorem Reaches.here (computer : Computer δ) : Reaches computer 0 computer :=
  ⟨fun _ done => absurd done (Nat.not_lt_zero _), rfl⟩

theorem Reaches.cons (running : start.status = .running)
    (reaches : Reaches start.next count final) : Reaches start (count + 1) final := by
  refine ⟨fun done bound => ?_, ?_⟩
  · cases done with
    | zero => exact running
    | succ done =>
      rw [after_succ']
      exact reaches.running done (Nat.lt_of_succ_lt_succ bound)
  · rw [after_succ']
    exact reaches.arrives

theorem Reaches.concat (reaches : Reaches start count final) (running : final.status = .running) :
    Reaches start (count + 1) final.next := by
  refine ⟨fun done bound => ?_, ?_⟩
  · rcases Nat.lt_succ_iff_lt_or_eq.mp bound with before | rfl
    · exact reaches.running done before
    · rw [← reaches.arrives]
      exact running
  · rw [after_succ, ← reaches.arrives]

/-! ### Runs, one step at a time -/

theorem run?_of_running (running : computer.status = .running) :
    run? (fuel + 1) computer = run? fuel computer.next := by
  rw [run?, step_eq_pair, running]

theorem ne_running_of_exit? {exit : Exit} (ends : computer.status.exit? = some exit) :
    computer.status ≠ .running := by
  intro running
  rw [running] at ends
  cases ends

/-- A run ends where a step does not go on. -/
theorem run?_of_exit? {exit : Exit} (ends : computer.status.exit? = some exit) :
    run? (fuel + 1) computer = some (exit, computer) := by
  rw [run?, step_eq_pair, next_of_stuck (ne_running_of_exit? ends)]
  cases reported : computer.status with
  | running => exact absurd reported (ne_running_of_exit? ends)
  | halted | faulted fault =>
    rw [reported] at ends
    cases ends
    rfl

theorem Reaches.tail (reaches : Reaches start (count + 1) final) :
    start.status = .running ∧ Reaches start.next count final := by
  refine ⟨reaches.running 0 (Nat.zero_lt_succ count), fun done bound => ?_, ?_⟩
  · rw [← after_succ']
    exact reaches.running (done + 1) (Nat.succ_lt_succ bound)
  · rw [← after_succ']
    exact reaches.arrives

/-- A run with enough fuel ends where the steps lead that all go on. -/
theorem run?_of_reaches {exit : Exit} (reaches : Reaches start count final)
    (ends : final.status.exit? = some exit) (enough : count < fuel) :
    run? fuel start = some (exit, final) := by
  obtain ⟨fuel, rfl⟩ : ∃ left, fuel = left + 1 := ⟨fuel - 1, by omega⟩
  induction count generalizing start fuel with
  | zero =>
    obtain rfl : final = start := reaches.arrives
    exact run?_of_exit? ends
  | succ count ih =>
    obtain ⟨running, behind⟩ := reaches.tail
    obtain ⟨fuel, rfl⟩ : ∃ left, fuel = left + 1 := ⟨fuel - 1, by omega⟩
    rw [run?_of_running running]
    exact ih behind fuel (by omega)

end Computer

end ByteMachine
