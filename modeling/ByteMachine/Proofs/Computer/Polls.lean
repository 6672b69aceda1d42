/-
**A run under a monitor, poll by poll.**

A monitor is polled with a count, its own state and the computer (`Poll`). It answers, and may leave
another device behind (`Monitor.polled`). From one poll to the next the count grows by one and the
computer makes one step (`Monitor.following`), so the polls of a run are an iterate, whatever the
monitor does.

* `Monitor.Passes`, `Monitor.Concludes`: a poll lets the run go on, or is its last one. The last
  one is answered with the wish to stop, or followed by a step that does not go on.
* `resume_round`, `resume_eq`: one round of a run. `resume_of_passes` and `resume_of_concludes` are
  its two kinds.
* `resume_cases`: **a run ends at its first poll that does not pass**, or every poll passes until
  the count is exhausted. By induction on what is left of the count.
* `Monitor.recorded`: a monitor that keeps its polls. `pollAfter_recorded`: what it keeps.
* `Monitor.Simulates`, `resume_simulates`: **two runs beside each other**, by a relation between
  their polls that their rounds keep.
-/

import ByteMachine.Proofs.Computer.Course
import ByteMachine.Run

namespace ByteMachine

universe u v w x

/-- What a monitor is shown when it is polled. -/
structure Poll (σ : Type v) (δ : Type u) where
  count : Nat
  observer : σ
  computer : Computer δ

namespace Monitor

variable {σ : Type v} {δ : Type u}

def answer (monitor : Monitor σ δ) (poll : Poll σ δ) : Verdict σ δ :=
  monitor poll.count poll.computer.machine poll.observer poll.computer.device

/-- The computer with the device that the monitor leaves behind. -/
def polled (monitor : Monitor σ δ) (poll : Poll σ δ) : Computer δ :=
  ⟨poll.computer.machine, (monitor.answer poll).device⟩

/-- The monitor that also keeps a list of its polls, in their order. -/
def recorded (monitor : Monitor σ δ) : Monitor (σ × List (Poll σ δ)) δ :=
  fun count machine kept device =>
    let verdict := monitor count machine kept.1 device
    { stop := verdict.stop
      observer := (verdict.observer, kept.2 ++ [⟨count, kept.1, ⟨machine, device⟩⟩])
      device := verdict.device }

variable [Device δ]

/-- The poll behind the step that a poll is followed by. -/
def following (monitor : Monitor σ δ) (poll : Poll σ δ) : Poll σ δ :=
  ⟨poll.count + 1, (monitor.answer poll).observer, (monitor.polled poll).next⟩

/-- The poll after some steps of a computer. -/
def pollAfter (monitor : Monitor σ δ) (observer : σ) (start : Computer δ) (count : Nat) :
    Poll σ δ :=
  monitor.following^[count] ⟨0, observer, start⟩

/-- The monitor lets the run go on, and the step after the poll goes on. -/
structure Passes (monitor : Monitor σ δ) (poll : Poll σ δ) : Prop where
  allowed : (monitor.answer poll).stop = false
  running : (monitor.polled poll).status = .running

/-- **The poll is the last one of a run with an outcome.** Either the monitor stops the run and
there is no further step, or it does not and the next step is a halt or a fault. -/
inductive Concludes (monitor : Monitor σ δ) (poll : Poll σ δ) : Outcome σ δ → Prop where
  | stopped : (monitor.answer poll).stop = true →
      Concludes monitor poll ⟨.stopped, (monitor.answer poll).observer, monitor.polled poll⟩
  | ended {status : Status} {exit : Exit} {last : Computer δ} :
      (monitor.answer poll).stop = false → (monitor.polled poll).step = (status, last) →
        status.exit? = some exit →
          Concludes monitor poll ⟨exit, (monitor.answer poll).observer, last⟩

/-! ### The polls of a run -/

section Polls

variable (monitor : Monitor σ δ) (observer : σ) (start : Computer δ)

theorem pollAfter_succ (count : Nat) :
    monitor.pollAfter observer start (count + 1) =
      monitor.following (monitor.pollAfter observer start count) :=
  Function.iterate_succ_apply' monitor.following count _

theorem count_pollAfter (count : Nat) : (monitor.pollAfter observer start count).count = count := by
  induction count with
  | zero => rfl
  | succ count ih => rw [pollAfter_succ, following, ih]

/-- Whatever the monitor does to the device, it is shown the machine's own course. -/
theorem machine_pollAfter (count : Nat) :
    (monitor.pollAfter observer start count).computer.machine = start.machine.after count := by
  induction count with
  | zero => rfl
  | succ count ih =>
    rw [pollAfter_succ, Machine.after_succ, ← ih]
    exact Computer.machine_next _

/-- The recording monitor is polled with the same computers, and has kept all polls so far. -/
theorem pollAfter_recorded (count : Nat) :
    monitor.recorded.pollAfter (observer, []) start count =
      let poll := monitor.pollAfter observer start count
      ⟨poll.count, (poll.observer, (List.range count).map (monitor.pollAfter observer start)),
        poll.computer⟩ := by
  induction count with
  | zero => rfl
  | succ count ih =>
    rw [pollAfter_succ, ih, pollAfter_succ, List.range_succ, List.map_append]
    rfl

end Polls

/-! ### One poll -/

section Poll

variable {monitor : Monitor σ δ} {poll : Poll σ δ} {outcome : Outcome σ δ}

theorem exists_concludes (blocked : ¬ monitor.Passes poll) :
    ∃ outcome, monitor.Concludes poll outcome := by
  by_cases stop : (monitor.answer poll).stop = true
  · exact ⟨_, .stopped stop⟩
  · have allowed : (monitor.answer poll).stop = false := eq_false_of_ne_true stop
    have stuck : (monitor.polled poll).status ≠ .running :=
      fun running => blocked ⟨allowed, running⟩
    obtain ⟨exit, ends⟩ := Status.exists_exit? stuck
    exact ⟨_, .ended allowed (Computer.step_eq_pair _) ends⟩

theorem Concludes.ne_exhausted (concludes : monitor.Concludes poll outcome) :
    outcome.exit ≠ .exhausted := by
  cases concludes with
  | stopped _ => simp
  | @ended status exit last _ _ ends =>
    rintro rfl
    cases status <;> cases ends

/-- Behind the last poll nothing changes any more. -/
theorem Concludes.computer (concludes : monitor.Concludes poll outcome) :
    outcome.computer = monitor.polled poll := by
  cases concludes with
  | stopped _ => rfl
  | @ended status exit last _ stepped ends =>
    obtain ⟨rfl, rfl⟩ := Prod.mk.inj ((Computer.step_eq_pair _).symm.trans stepped)
    exact Computer.next_of_stuck (Computer.ne_running_of_exit? ends)

theorem Concludes.observer (concludes : monitor.Concludes poll outcome) :
    outcome.observer = (monitor.answer poll).observer := by
  cases concludes with
  | stopped _ => rfl
  | ended _ _ _ => rfl

theorem Concludes.recorded (concludes : monitor.Concludes poll outcome)
    (before : List (Poll σ δ)) :
    monitor.recorded.Concludes ⟨poll.count, (poll.observer, before), poll.computer⟩
      ⟨outcome.exit, (outcome.observer, before ++ [poll]), outcome.computer⟩ := by
  cases concludes with
  | stopped stop => exact .stopped stop
  | ended allowed stepped ends => exact .ended allowed stepped ends

end Poll

/-- **Two monitors whose polls can be related.** Related polls pass alike and are followed by
related ones, and what they conclude is related. -/
structure Simulates {τ : Type x} {ε : Type w} [Device ε] (first : Monitor σ δ)
    (second : Monitor τ ε) (polls : Poll σ δ → Poll τ ε → Prop)
    (outcomes : Outcome σ δ → Outcome τ ε → Prop) : Prop where
  passes : ∀ {one two}, polls one two → first.Passes one → second.Passes two
  follows : ∀ {one two}, polls one two → first.Passes one →
    polls (first.following one) (second.following two)
  concludes : ∀ {one two outcome}, polls one two → first.Concludes one outcome →
    ∃ other, second.Concludes two other ∧ outcomes outcome other
  exhausts : ∀ {one two}, polls one two →
    outcomes ⟨.exhausted, one.observer, one.computer⟩ ⟨.exhausted, two.observer, two.computer⟩

end Monitor

namespace Computer

variable {σ : Type v} {δ : Type u} [Device δ] {monitor : Monitor σ δ} {poll : Poll σ δ}
  {outcome : Outcome σ δ} {remaining count : Nat}

/-- Runs on from a poll. -/
def resume (monitor : Monitor σ δ) (remaining : Nat) (poll : Poll σ δ) : Outcome σ δ :=
  runFrom monitor remaining poll.count poll.observer poll.computer

/-! ### One round -/

/-- One round of a run: a poll, and the step behind it if the monitor allows one. -/
theorem resume_round (monitor : Monitor σ δ) (remaining : Nat) (poll : Poll σ δ) :
    resume monitor remaining poll =
      if (monitor.answer poll).stop then
        ⟨.stopped, (monitor.answer poll).observer, monitor.polled poll⟩
      else
        match (monitor.polled poll).step with
        | (.halted, last) => ⟨.halted, (monitor.answer poll).observer, last⟩
        | (.faulted fault, last) => ⟨.faulted fault, (monitor.answer poll).observer, last⟩
        | (.running, next) =>
          match remaining with
          | 0 => ⟨.exhausted, (monitor.answer poll).observer, next⟩
          | remaining + 1 =>
            runFrom monitor remaining (poll.count + 1) (monitor.answer poll).observer next :=
  runFrom.eq_def ..

/-- The round by what its step reports: only a step that goes on leads anywhere. -/
theorem resume_eq (monitor : Monitor σ δ) (remaining : Nat) (poll : Poll σ δ) :
    resume monitor remaining poll =
      if (monitor.answer poll).stop then
        ⟨.stopped, (monitor.answer poll).observer, monitor.polled poll⟩
      else
        match (monitor.polled poll).status.exit?, remaining with
        | some exit, _ => ⟨exit, (monitor.answer poll).observer, monitor.polled poll⟩
        | none, 0 => ⟨.exhausted, (monitor.answer poll).observer, (monitor.polled poll).next⟩
        | none, remaining + 1 => resume monitor remaining (monitor.following poll) := by
  rw [resume_round, step_eq_pair]
  cases reported : (monitor.polled poll).status with
  | running => cases remaining <;> rfl
  | halted | faulted fault =>
    have stays : (monitor.polled poll).next = monitor.polled poll :=
      next_of_stuck (by rw [reported]; simp)
    rw [stays]
    rfl

theorem resume_of_passes (passes : monitor.Passes poll) :
    resume monitor (remaining + 1) poll = resume monitor remaining (monitor.following poll) := by
  rw [resume_eq, passes.allowed, Status.exit?_eq_none_iff.mpr passes.running]
  rfl

theorem resume_zero_of_passes (passes : monitor.Passes poll) :
    resume monitor 0 poll =
      ⟨.exhausted, (monitor.following poll).observer, (monitor.following poll).computer⟩ := by
  rw [resume_eq, passes.allowed, Status.exit?_eq_none_iff.mpr passes.running]
  rfl

theorem resume_of_concludes (concludes : monitor.Concludes poll outcome) :
    resume monitor remaining poll = outcome := by
  rw [resume_eq]
  cases concludes with
  | stopped stop => rw [stop, if_pos rfl]
  | @ended status exit last allowed stepped ends =>
    obtain ⟨rfl, rfl⟩ := Prod.mk.inj ((step_eq_pair _).symm.trans stepped)
    rw [allowed, ends, next_of_stuck (ne_running_of_exit? ends)]
    rfl

/-! ### Many rounds -/

/-- A run goes on through all polls that pass. -/
theorem resume_iterate
    (passes : ∀ index < count, monitor.Passes (monitor.following^[index] poll)) :
    resume monitor (remaining + count) poll =
      resume monitor remaining (monitor.following^[count] poll) := by
  induction count generalizing poll with
  | zero => rfl
  | succ count ih =>
    have first : monitor.Passes poll := passes 0 (Nat.zero_lt_succ count)
    have later : ∀ index < count,
        monitor.Passes (monitor.following^[index] (monitor.following poll)) :=
      fun index bound => passes (index + 1) (Nat.succ_lt_succ bound)
    rw [← Nat.add_assoc, resume_of_passes first, ih later]
    rfl

/-- **A run ends at its first poll that does not pass**, if the count lasts until there. -/
theorem resume_cases (monitor : Monitor σ δ) (remaining : Nat) (poll : Poll σ δ) :
    (resume monitor remaining poll =
          ⟨.exhausted, (monitor.following^[remaining + 1] poll).observer,
            (monitor.following^[remaining + 1] poll).computer⟩ ∧
        ∀ index < remaining + 1, monitor.Passes (monitor.following^[index] poll)) ∨
      ∃ last ≤ remaining, (∀ index < last, monitor.Passes (monitor.following^[index] poll)) ∧
        monitor.Concludes (monitor.following^[last] poll) (resume monitor remaining poll) := by
  induction remaining generalizing poll with
  | zero =>
    by_cases passes : monitor.Passes poll
    · refine .inl ⟨resume_zero_of_passes passes, fun index bound => ?_⟩
      obtain rfl := Nat.lt_one_iff.mp bound
      exact passes
    · obtain ⟨outcome, concludes⟩ := Monitor.exists_concludes passes
      rw [resume_of_concludes concludes]
      exact .inr ⟨0, Nat.le_refl 0, by simp, concludes⟩
  | succ remaining ih =>
    by_cases passes : monitor.Passes poll
    · -- The polls behind this one are those of the run that goes on.
      have shifted : ∀ bound, (∀ index < bound,
          monitor.Passes (monitor.following^[index] (monitor.following poll))) →
            ∀ index < bound + 1, monitor.Passes (monitor.following^[index] poll) := by
        intro bound later index within
        cases index with
        | zero => exact passes
        | succ index => exact later index (Nat.lt_of_succ_lt_succ within)
      rw [resume_of_passes passes]
      rcases ih (monitor.following poll) with ⟨exhausted, later⟩ | ⟨last, bound, later, concludes⟩
      · exact .inl ⟨exhausted, shifted (remaining + 1) later⟩
      · exact .inr ⟨last + 1, Nat.succ_le_succ bound, shifted last later, concludes⟩
    · obtain ⟨outcome, concludes⟩ := Monitor.exists_concludes passes
      rw [resume_of_concludes concludes]
      exact .inr ⟨0, Nat.zero_le _, by simp, concludes⟩

/-! ### Two runs beside each other -/

section Simulation

variable {τ : Type x} {ε : Type w} [Device ε] {first : Monitor σ δ} {second : Monitor τ ε}
  {polls : Poll σ δ → Poll τ ε → Prop} {outcomes : Outcome σ δ → Outcome τ ε → Prop}
  {one : Poll σ δ} {two : Poll τ ε}

theorem resume_of_blocked (simulates : first.Simulates second polls outcomes)
    (related : polls one two) (blocked : ¬ first.Passes one) (remaining : Nat) :
    outcomes (resume first remaining one) (resume second remaining two) := by
  obtain ⟨outcome, concludes⟩ := Monitor.exists_concludes blocked
  obtain ⟨other, otherConcludes, close⟩ := simulates.concludes related concludes
  rw [resume_of_concludes concludes, resume_of_concludes otherConcludes]
  exact close

/-- **Runs from related polls have related outcomes**, by induction on what is left of the count. -/
theorem resume_simulates (simulates : first.Simulates second polls outcomes) (remaining : Nat)
    (related : polls one two) :
    outcomes (resume first remaining one) (resume second remaining two) := by
  induction remaining generalizing one two with
  | zero =>
    by_cases passes : first.Passes one
    · rw [resume_zero_of_passes passes, resume_zero_of_passes (simulates.passes related passes)]
      exact simulates.exhausts (simulates.follows related passes)
    · exact resume_of_blocked simulates related passes 0
  | succ remaining ih =>
    by_cases passes : first.Passes one
    · rw [resume_of_passes passes, resume_of_passes (simulates.passes related passes)]
      exact ih (simulates.follows related passes)
    · exact resume_of_blocked simulates related passes (remaining + 1)

end Simulation

end Computer

end ByteMachine
