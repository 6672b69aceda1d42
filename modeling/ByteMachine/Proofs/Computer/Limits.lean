/-
**Runs under a limit, or under none.**

A monitor may do nothing to a run but apply a limit to it (`Monitor.Limits`), whatever it keeps for
itself.

* `runUntil_of_limits`: **all such monitors make the same run**, with whatever devices. Their polls
  correspond (`simulates_of_limits`).
* `EndsAfter`: a run that is over after so many instructions. `endsAfter_of_guarded`: every run
  under such a monitor is, unless its count is exhausted, and under a limit the count is not
  (`exit_ne_exhausted`).
-/

import ByteMachine.Proofs.Computer.Devices
import ByteMachine.Proofs.Computer.Guarded

namespace ByteMachine

universe u v w x

section Alike

variable {σ : Type v} {δ : Type u} {τ : Type x} {ε : Type w}

/-- Polls with the same count that show the same machine, and devices that correspond. -/
structure Poll.Corresponds (carry : δ → ε) (one : Poll σ δ) (two : Poll τ ε) : Prop where
  count : two.count = one.count
  computer : two.computer = one.computer.mapDevice carry

/-- Outcomes with the same exit and the same machine, and devices that correspond. -/
structure Outcome.Corresponds (carry : δ → ε) (one : Outcome σ δ) (two : Outcome τ ε) : Prop where
  exit : two.exit = one.exit
  computer : two.computer = one.computer.mapDevice carry

end Alike

namespace Computer

variable {σ : Type v} {δ : Type u} [Device δ] {limit : Option Nat} {monitor : Monitor σ δ}

/-! ### What a monitor keeps for itself -/

section Alike

variable {τ : Type x} {ε : Type w} [Device ε] {other : Monitor τ ε} {carry : δ → ε}
  {one : Poll σ δ} {two : Poll τ ε} {outcome : Outcome σ δ}

omit [Device δ] [Device ε] in
theorem answer_of_corresponds (limits : monitor.Limits limit) (otherLimits : other.Limits limit)
    (corresponds : one.Corresponds carry two) :
    (other.answer two).stop = (monitor.answer one).stop := by
  rw [Monitor.answer, Monitor.answer, limits.stop, otherLimits.stop, corresponds.count]

theorem status_of_corresponds (corresponds : one.Corresponds carry two) :
    two.computer.status = one.computer.status := by
  rw [corresponds.computer, status_mapDevice]

theorem passes_of_corresponds (limits : monitor.Limits limit) (otherLimits : other.Limits limit)
    (corresponds : one.Corresponds carry two) (passes : monitor.Passes one) : other.Passes two := by
  refine passes_of_keeps otherLimits.keeps ?_ ?_
  · rw [answer_of_corresponds limits otherLimits corresponds]
    exact passes.allowed
  · rw [status_of_corresponds corresponds, ← polled_of_keeps limits.keeps]
    exact passes.running

theorem following_of_corresponds (limits : monitor.Limits limit)
    (otherLimits : other.Limits limit) (relays : Device.Relays carry)
    (corresponds : one.Corresponds carry two) :
    (monitor.following one).Corresponds carry (other.following two) := by
  rw [following_of_keeps limits.keeps, following_of_keeps otherLimits.keeps, corresponds.count,
    corresponds.computer, next_mapDevice relays]
  exact ⟨rfl, rfl⟩

theorem concludes_of_corresponds (limits : monitor.Limits limit)
    (otherLimits : other.Limits limit) (corresponds : one.Corresponds carry two)
    (concludes : monitor.Concludes one outcome) :
    ∃ conclusion, other.Concludes two conclusion ∧ outcome.Corresponds carry conclusion := by
  have answer := answer_of_corresponds limits otherLimits corresponds
  have computer : outcome.computer = one.computer :=
    concludes.computer.trans (polled_of_keeps limits.keeps one)
  cases concludes with
  | stopped asked =>
    refine ⟨_, .stopped (answer.trans asked), rfl, ?_⟩
    rw [computer, polled_of_keeps otherLimits.keeps]
    exact corresponds.computer
  | @ended reported exit last allowed stepped ends =>
    obtain rfl : reported = two.computer.status := by
      rw [status_of_corresponds corresponds, ← polled_of_keeps limits.keeps, status, stepped]
    refine ⟨_, concludes_of_keeps otherLimits.keeps (answer.trans allowed) ends, rfl, ?_⟩
    rw [computer]
    exact corresponds.computer

theorem simulates_of_limits (limits : monitor.Limits limit) (otherLimits : other.Limits limit)
    (relays : Device.Relays carry) :
    monitor.Simulates other (Poll.Corresponds carry) (Outcome.Corresponds carry) where
  passes := fun corresponds => passes_of_corresponds limits otherLimits corresponds
  follows := fun corresponds _ => following_of_corresponds limits otherLimits relays corresponds
  concludes := fun corresponds => concludes_of_corresponds limits otherLimits corresponds
  exhausts := fun corresponds => ⟨rfl, corresponds.computer⟩

/-- **What a monitor keeps for itself changes nothing**, if all it does is to apply the limit. -/
theorem runUntil_of_limits (limits : monitor.Limits limit) (otherLimits : other.Limits limit)
    (relays : Device.Relays carry) (observer : σ) (otherObserver : τ) (start : Computer δ) :
    (runUntil monitor observer start).Corresponds carry
      (runUntil other otherObserver (start.mapDevice carry)) := by
  have first : Poll.Corresponds carry (⟨0, observer, start⟩ : Poll σ δ)
      ⟨0, otherObserver, start.mapDevice carry⟩ := ⟨rfl, rfl⟩
  exact resume_simulates (simulates_of_limits limits otherLimits relays) countLimit first

end Alike

/-! ### How many instructions are executed -/

/-- **A run that is over after so many instructions.** All of them went on. Then the limit stopped
the run, or the next step was a halt or a fault. -/
structure EndsAfter (limit : Option Nat) (start : Computer δ) (executed : Nat)
    (outcome : Outcome σ δ) : Prop where
  reaches : Reaches start executed outcome.computer
  stopped : outcome.exit = .stopped → limit = some executed
  ended : outcome.exit ≠ .stopped → outcome.computer.status.exit? = some outcome.exit

section EndsAfter

variable {observer : σ} {start : Computer δ} {outcome : Outcome σ δ} {last executed : Nat}

theorem endsAfter_of_guarded (limits : monitor.Limits limit)
    (guarded : Guarded monitor observer start last outcome) :
    EndsAfter limit start last outcome := by
  have final : outcome.computer = start.after last :=
    calc outcome.computer
        = monitor.polled (monitor.pollAfter observer start last) := guarded.concludes.computer
      _ = (monitor.pollAfter observer start last).computer := polled_of_keeps limits.keeps _
      _ = start.after last := computer_iterate_of_keeps limits.keeps _ last
  refine ⟨?_, fun stopped => limit_of_stopped limits guarded stopped, fun notStopped => ?_⟩
  · rw [final]
    exact reaches_of_passes limits.keeps guarded.passes
  · rcases settled_of_concludes guarded.concludes with stopped | exhausted | ends
    · exact absurd stopped notStopped
    · exact absurd exhausted guarded.concludes.ne_exhausted
    · exact ends

theorem EndsAfter.of_eq {τ : Type x} {other : Outcome τ δ}
    (ends : EndsAfter limit start executed outcome) (exit : other.exit = outcome.exit)
    (computer : other.computer = outcome.computer) : EndsAfter limit start executed other := by
  refine ⟨?_, ?_, ?_⟩
  · rw [computer]
    exact ends.reaches
  · rw [exit]
    exact ends.stopped
  · rw [exit, computer]
    exact ends.ended

theorem EndsAfter.ne_exhausted (ends : EndsAfter limit start executed outcome) :
    outcome.exit ≠ .exhausted := by
  intro exhausted
  have stuck := ends.ended (by rw [exhausted]; simp)
  rw [exhausted] at stuck
  cases status : outcome.computer.status <;> rw [status] at stuck <;> cases stuck

/-- The one fault of a run is a byte that is no opcode, traced where the run ended. -/
theorem EndsAfter.fault (ends : EndsAfter limit start executed outcome) {fault : Fault}
    (faulted : outcome.exit = .faulted fault) :
    fault = .badInstruction (outcome.computer.machine.ram.get outcome.computer.machine.pc)
      outcome.computer.machine.trace := by
  have stuck := ends.ended (by rw [faulted]; simp)
  rw [faulted] at stuck
  have reported : outcome.computer.status = .faulted fault :=
    Status.eq_of_exit? stuck rfl
  rw [status_eq] at reported
  exact (Machine.status_eq_faulted_iff.mp reported).2

/-- Under a limit that the count can reach it is not exhausted. -/
theorem exit_ne_exhausted {most : Nat} (limits : monitor.Limits (some most))
    (bound : most ≤ countLimit) : (runUntil monitor observer start).exit ≠ .exhausted := by
  obtain ⟨last, -, guarded, -⟩ := guarded_of_limits limits bound observer start
  exact guarded.concludes.ne_exhausted

end EndsAfter

end Computer

end ByteMachine
