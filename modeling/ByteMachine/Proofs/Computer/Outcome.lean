/-
**How runs end: truthfully, and for good.**

`Truthful` says what holds when a run is over: the reported end is what the machine shows, the
computer is the one its steps led to, and after a halt or a fault every further call of the host
gives the same answer and changes nothing.

* `run?_reaches`: a run ends where its steps lead, by induction on the fuel.
* `runFrom_reaches`: so does a run under a monitor that leaves the device alone, since its polls
  show the computer's own course.
* `eq_of_recalled`: a computer that does not go on is all that further calls lead to.
* `outcomes_truthful`: **every run that is over is over truthfully**, with or without a monitor.
-/

import ByteMachine.Proofs.Computer.Polls

namespace ByteMachine

universe u v

/-- The monitor leaves the device alone. -/
def Monitor.KeepsDevice {σ : Type v} {δ : Type u} (monitor : Monitor σ δ) : Prop :=
  ∀ count machine observer device, (monitor count machine observer device).device = device

namespace Computer

variable {σ : Type v} {δ : Type u} [Device δ] {start computer final later : Computer δ}
  {exit : Exit} {count : Nat}

/-- What further calls of the host lead to: single steps, and runs that come to an end. -/
inductive Recalled (final : Computer δ) : Computer δ → Prop where
  | none : Recalled final final
  | step {later : Computer δ} : Recalled final later → Recalled final later.step.2
  | run {later last : Computer δ} {fuel : Nat} {exit : Exit} :
      Recalled final later → run? fuel later = some (exit, last) → Recalled final last

/-- **A run from one computer that reports its end is over truthfully at another.** -/
structure Truthful (start : Computer δ) (exit : Exit) (final : Computer δ) : Prop where
  halted : exit = .halted → final.machine.ram.get final.machine.pc = Opcode.halt.byte
  faulted : ∀ fault, exit = .faulted fault →
    ∃ opcode, fault = .badInstruction opcode final.machine.trace ∧
      opcode = final.machine.ram.get final.machine.pc ∧ Opcode.decode? opcode = none ∧
      final.machine.trace.bytes[0] = opcode
  reached : ∃ count, Reaches start count final
  lasting : ∀ status : Status, status.exit? = some exit → ∀ later, Recalled final later →
    later = final ∧ later.step = (status, final) ∧
      ∀ fuel, run? (fuel + 1) later = some (exit, final)

/-- A run under a monitor ends at the monitor's wish, with its count, or where the computer does
not go on. -/
def Settled (outcome : Outcome σ δ) : Prop :=
  outcome.exit = .stopped ∨ outcome.exit = .exhausted ∨
    outcome.computer.status.exit? = some outcome.exit

/-! ### Where runs end -/

/-- A run ends at the first computer that does not go on. -/
theorem run?_reaches {fuel : Nat} (ended : run? fuel start = some (exit, final)) :
    ∃ count, Reaches start count final ∧ final.status.exit? = some exit := by
  induction fuel generalizing start with
  | zero => cases ended
  | succ fuel ih =>
    by_cases running : start.status = .running
    · rw [run?_of_running running] at ended
      obtain ⟨count, reaches, ends⟩ := ih ended
      exact ⟨count + 1, reaches.cons running, ends⟩
    · obtain ⟨stop, ends⟩ := Status.exists_exit? running
      rw [run?_of_exit? ends] at ended
      cases ended
      exact ⟨0, .here _, ends⟩

section Keeps

variable {monitor : Monitor σ δ} {poll : Poll σ δ}

omit [Device δ] in
theorem polled_of_keeps (keeps : monitor.KeepsDevice) (poll : Poll σ δ) :
    monitor.polled poll = poll.computer := by
  rw [Monitor.polled, Monitor.answer, keeps]

theorem following_of_keeps (keeps : monitor.KeepsDevice) (poll : Poll σ δ) :
    monitor.following poll =
      ⟨poll.count + 1, (monitor.answer poll).observer, poll.computer.next⟩ := by
  rw [Monitor.following, polled_of_keeps keeps]

theorem passes_of_keeps (keeps : monitor.KeepsDevice)
    (allowed : (monitor.answer poll).stop = false) (running : poll.computer.status = .running) :
    monitor.Passes poll where
  allowed := allowed
  running := by rwa [polled_of_keeps keeps]

theorem concludes_of_keeps (keeps : monitor.KeepsDevice)
    (allowed : (monitor.answer poll).stop = false)
    (ends : poll.computer.status.exit? = some exit) :
    monitor.Concludes poll ⟨exit, (monitor.answer poll).observer, poll.computer⟩ := by
  have stepped : (monitor.polled poll).step = (poll.computer.status, poll.computer) := by
    rw [polled_of_keeps keeps, step_eq_pair, next_of_stuck (ne_running_of_exit? ends)]
  exact .ended allowed stepped ends

theorem computer_iterate_of_keeps (keeps : monitor.KeepsDevice) (poll : Poll σ δ) (count : Nat) :
    (monitor.following^[count] poll).computer = poll.computer.after count := by
  induction count with
  | zero => rfl
  | succ count ih =>
    rw [Function.iterate_succ_apply', after_succ, ← ih, following_of_keeps keeps]

theorem reaches_of_passes (keeps : monitor.KeepsDevice)
    (passes : ∀ index < count, monitor.Passes (monitor.following^[index] poll)) :
    Reaches poll.computer count (poll.computer.after count) where
  running := fun done bound => by
    rw [← computer_iterate_of_keeps keeps, ← polled_of_keeps keeps]
    exact (passes done bound).running
  arrives := rfl

theorem settled_of_concludes {outcome : Outcome σ δ} (concludes : monitor.Concludes poll outcome) :
    Settled outcome := by
  have final := concludes.computer
  cases concludes with
  | stopped _ => exact .inl rfl
  | @ended reported exit last _ stepped ends =>
    refine .inr (.inr ?_)
    rw [final, status, stepped]
    exact ends

/-- A run under such a monitor ends where the monitor stops it, where the count is exhausted, or
at the first computer that does not go on. -/
theorem runFrom_reaches (keeps : monitor.KeepsDevice) (remaining count : Nat) (observer : σ)
    (start : Computer δ) :
    ∃ executed,
      Reaches start executed (runFrom monitor remaining count observer start).computer ∧
        Settled (runFrom monitor remaining count observer start) := by
  have run : runFrom monitor remaining count observer start =
      resume monitor remaining ⟨count, observer, start⟩ := rfl
  rw [run]
  rcases resume_cases monitor remaining ⟨count, observer, start⟩ with
    ⟨exhausted, passes⟩ | ⟨last, -, passes, concludes⟩
  · have final := computer_iterate_of_keeps keeps ⟨count, observer, start⟩ (remaining + 1)
    rw [exhausted, final]
    exact ⟨remaining + 1, reaches_of_passes keeps passes, .inr (.inl rfl)⟩
  · have final : (resume monitor remaining ⟨count, observer, start⟩).computer = start.after last :=
      calc (resume monitor remaining ⟨count, observer, start⟩).computer
          = monitor.polled (monitor.following^[last] ⟨count, observer, start⟩) :=
            concludes.computer
        _ = (monitor.following^[last] ⟨count, observer, start⟩).computer :=
            polled_of_keeps keeps _
        _ = start.after last := computer_iterate_of_keeps keeps _ last
    rw [final]
    exact ⟨last, reaches_of_passes keeps passes, settled_of_concludes concludes⟩

end Keeps

/-! ### Further calls -/

/-- **A computer that does not go on is all that further calls lead to.** -/
theorem eq_of_recalled (ends : final.status.exit? = some exit) (recalled : Recalled final later) :
    later = final := by
  induction recalled with
  | none => rfl
  | step _ same =>
    rw [same]
    exact next_of_stuck (ne_running_of_exit? ends)
  | @run later last fuel stop _ ended same =>
    rw [same] at ended
    cases fuel with
    | zero => cases ended
    | succ fuel =>
      rw [run?_of_exit? ends] at ended
      cases ended
      rfl

/-! ### The end of a run -/

/-- A trace starts with the byte at the program counter. -/
theorem bytes_zero_trace (machine : Machine) :
    machine.trace.bytes[0] = machine.ram.get machine.pc := by
  unfold Machine.trace
  rw [Vector.getElem_ofFn]
  exact Ram.read_toNat machine.ram machine.pc

theorem truthful_of_exit? (reaches : Reaches start count final)
    (ends : final.status.exit? = some exit) : Truthful start exit final where
  halted := by
    rintro rfl
    have halted : final.status = .halted := Status.eq_of_exit? ends rfl
    rw [status_eq] at halted
    exact Machine.status_eq_halted_iff.mp halted
  faulted := by
    rintro fault rfl
    have faulted : final.status = .faulted fault := Status.eq_of_exit? ends rfl
    rw [status_eq] at faulted
    obtain ⟨missing, rfl⟩ := Machine.status_eq_faulted_iff.mp faulted
    exact ⟨_, rfl, rfl, missing, bytes_zero_trace final.machine⟩
  reached := ⟨count, reaches⟩
  lasting := by
    intro status reports later recalled
    obtain rfl := eq_of_recalled ends recalled
    obtain rfl := Status.eq_of_exit? ends reports
    refine ⟨rfl, ?_, fun fuel => run?_of_exit? ends⟩
    rw [step_eq_pair, next_of_stuck (ne_running_of_exit? ends)]

/-- A run that the monitor stopped, or its count, claims only where it is. -/
theorem truthful_of_open (reaches : Reaches start count final)
    (opened : exit = .stopped ∨ exit = .exhausted) : Truthful start exit final where
  halted := by
    rintro rfl
    simp at opened
  faulted := by
    rintro fault rfl
    simp at opened
  reached := ⟨count, reaches⟩
  lasting := by
    intro status reports
    rcases opened with rfl | rfl <;> cases status <;> cases reports

/-- **Runs end truthfully and for good.** A run ends with a halt or a fault only, a run under a
monitor that leaves the device alone also at the monitor's wish or with its count; what is
reported is so, nothing but the steps that went on has changed anything, and a halt or a fault
lasts. -/
theorem outcomes_truthful (start : Computer δ) :
    (∀ fuel exit final, run? fuel start = some (exit, final) →
        (exit = .halted ∨ ∃ fault, exit = .faulted fault) ∧ Truthful start exit final) ∧
      ∀ (monitor : Monitor σ δ) observer, monitor.KeepsDevice →
        Truthful start (runUntil monitor observer start).exit
          (runUntil monitor observer start).computer := by
  refine ⟨fun fuel exit final ended => ?_, fun monitor observer keeps => ?_⟩
  · obtain ⟨count, reaches, ends⟩ := run?_reaches ended
    refine ⟨?_, truthful_of_exit? reaches ends⟩
    cases reported : final.status with
    | running => exact absurd reported (ne_running_of_exit? ends)
    | halted =>
      rw [reported] at ends
      exact .inl (Option.some.inj ends).symm
    | faulted fault =>
      rw [reported] at ends
      exact .inr ⟨fault, (Option.some.inj ends).symm⟩
  · obtain ⟨count, reaches, stopped | exhausted | ends⟩ :=
      runFrom_reaches keeps countLimit 0 observer start
    · exact truthful_of_open reaches (.inl stopped)
    · exact truthful_of_open reaches (.inr exhausted)
    · exact truthful_of_exit? reaches ends

/-- Prints the stack pointer and halts. -/
def printsPointer : Computer (Array UInt8) :=
  ⟨{ Machine.boot with ram := Ram.zero.overlay [0x47, 7, 0x01] }, #[]⟩

/-- The run of two instructions is over at the halt, for good, and so is the run under a limit. -/
theorem printsPointer_halts :
    run? 2 printsPointer = some (.halted, printsPointer.after 1) ∧
      (printsPointer.after 1).machine.ram.get 2 = 0x01 ∧
      run? 1 (printsPointer.after 1) = some (.halted, printsPointer.after 1) ∧
      (runUntil (Monitor.limit 5) () printsPointer).exit = .halted ∧
      Truthful printsPointer .halted
        (runUntil (Monitor.limit 5) () printsPointer).computer := by
  obtain ⟨runs, watched⟩ := outcomes_truthful (σ := Unit) printsPointer
  have ended : run? 2 printsPointer = some (.halted, printsPointer.after 1) := by
    have first : printsPointer.status = .running := by decide +kernel
    have second : (printsPointer.after 1).status.exit? = some .halted := by decide +kernel
    exact (run?_of_running first).trans (run?_of_exit? second)
  obtain ⟨-, truthful⟩ := runs 2 .halted (printsPointer.after 1) ended
  have limited := watched (Monitor.limit 5) () fun _ _ _ _ => rfl
  have halted : (runUntil (Monitor.limit 5) () printsPointer).exit = .halted := by decide +kernel
  rw [halted] at limited
  have here : (printsPointer.after 1).machine.pc = 2 := by decide +kernel
  refine ⟨ended, here ▸ truthful.halted rfl, ?_, halted, limited⟩
  exact (truthful.lasting .halted rfl _ .none).2.2 0

end Computer

end ByteMachine
