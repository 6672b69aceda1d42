/-
**A run under a limit is the beginning of any longer run.**

Runs with different limits are compared as steps from one computer (`atMost`). So many steps lead to
the same computer whether or not they all go on (`computer_atMost`), and what ends them tells
whether they did.

* `stopped_iff`: they are stopped if they all go on; if not, they end with what the computer reports
  (`exit_of_not_stopped`).
* `stopped_iff_of_endsBy`: **a limit stops a machine that ends by itself if it is not larger than
  the number of steps before that**; `after_of_endsBy`: larger ones lead nowhere else.
* `runUntil_within`: a run without a limit is one whose limit the count cannot reach.
* `atMost_of_le`: **a run that its limit does not stop is the same under any larger one**, and
  `text_after_of_le`: what a console shows is never taken back.
-/

import ByteMachine.Proofs.Computer.Limits
import ByteMachine.Proofs.Computer.Slices

namespace ByteMachine

universe u v

/-- **The machine ends by itself after so many steps.** They all go on, and behind them it finds a
halt or a byte that is no opcode. -/
structure Machine.EndsBy (machine : Machine) (executed : Nat) : Prop where
  running : ∀ done < executed, (machine.after done).status = .running
  stuck : (machine.after executed).ram.get (machine.after executed).pc = Opcode.halt.byte ∨
    Opcode.decode? ((machine.after executed).ram.get (machine.after executed).pc) = none

namespace Computer

variable {σ : Type v} {δ : Type u} [Device δ] {start : Computer δ} {most more executed : Nat}

/-! ### Where so many steps lead -/

/-- So many steps lead to the same computer, whether or not they all go on. -/
theorem computer_atMost (most : Nat) (start : Computer δ) :
    (atMost most start).2 = start.after most := by
  induction most generalizing start with
  | zero => rfl
  | succ most ih =>
    cases ends : start.status.exit? with
    | some exit => rw [atMost_of_exit? ends, after_of_stuck (ne_running_of_exit? ends)]
    | none =>
      rw [atMost_of_running (Status.exit?_eq_none_iff.mp ends), after_succ']
      exact ih start.next

/-- **So many steps are stopped if they all go on.** -/
theorem stopped_iff (most : Nat) (start : Computer δ) :
    (atMost most start).1 = .stopped ↔ Reaches start most (start.after most) := by
  induction most generalizing start with
  | zero => exact ⟨fun _ => .here start, fun _ => rfl⟩
  | succ most ih =>
    cases ends : start.status.exit? with
    | some exit =>
      rw [atMost_of_exit? ends]
      refine ⟨fun stopped => absurd stopped (exit?_ne_stopped ends), fun reaches => ?_⟩
      exact absurd reaches.tail.1 (ne_running_of_exit? ends)
    | none =>
      have running := Status.exit?_eq_none_iff.mp ends
      rw [atMost_of_running running, ih, after_succ']
      exact ⟨fun reaches => reaches.cons running, fun reaches => reaches.tail.2⟩

/-- Steps that are not stopped end with what the computer reports. -/
theorem exit_of_not_stopped (most : Nat) (start : Computer δ)
    (goes : (atMost most start).1 ≠ .stopped) :
    (start.after most).status.exit? = some (atMost most start).1 := by
  induction most generalizing start with
  | zero => exact absurd rfl goes
  | succ most ih =>
    cases ends : start.status.exit? with
    | some exit =>
      rw [atMost_of_exit? ends, after_of_stuck (ne_running_of_exit? ends)]
      exact ends
    | none =>
      rw [atMost_of_running (Status.exit?_eq_none_iff.mp ends)] at goes ⊢
      rw [after_succ']
      exact ih start.next goes

/-! ### Machines that end by themselves -/

theorem status_of_endsBy (ends : start.machine.EndsBy executed) :
    (start.after executed).status ≠ .running := by
  rw [status_eq, machine_after]
  rcases ends.stuck with halt | missing
  · rw [Machine.status_eq_halted_iff.mpr halt]
    simp
  · rw [Machine.status_eq_faulted_iff.mpr ⟨missing, rfl⟩]
    simp

/-- Larger limits lead nowhere else. -/
theorem after_of_endsBy (ends : start.machine.EndsBy executed) (enough : executed ≤ most) :
    start.after most = start.after executed := by
  obtain ⟨further, rfl⟩ := Nat.exists_eq_add_of_le enough
  rw [after_add, after_of_stuck (status_of_endsBy ends)]

/-- **A limit stops a machine that ends by itself if it is not larger than the number of steps
before that.** -/
theorem stopped_iff_of_endsBy (ends : start.machine.EndsBy executed) :
    (atMost most start).1 = .stopped ↔ most ≤ executed := by
  rw [stopped_iff]
  constructor
  · intro reaches
    exact Nat.le_of_not_lt fun beyond => status_of_endsBy ends (reaches.running executed beyond)
  · intro within
    refine ⟨fun done bound => ?_, rfl⟩
    rw [status_eq, machine_after]
    exact ends.running done (Nat.lt_of_lt_of_le bound within)

/-! ### Runs without a limit -/

/-- The steps of a run under a limit, or under none: then it ends where its count is exhausted. -/
def mostSteps (limit : Option Nat) : Nat := limit.getD (countLimit + 1)

/-- The end of a run whose steps end so: without a limit there is nothing that stops them but the
count. -/
def exitUnder : Option Nat → Exit → Exit
  | none, .stopped => .exhausted
  | _, exit => exit

theorem exitUnder_of_ne {exit : Exit} (goes : exit ≠ .stopped) (limit : Option Nat) :
    exitUnder limit exit = exit := by
  cases limit <;> cases exit <;> first | rfl | exact absurd rfl goes

theorem resume_without (remaining : Nat) (poll : Poll σ δ) :
    resume (.within none) remaining poll =
      ⟨exitUnder none (atMost (remaining + 1) poll.computer).1, poll.observer,
        (atMost (remaining + 1) poll.computer).2⟩ := by
  have keeps : (Monitor.within none : Monitor σ δ).KeepsDevice :=
    (Monitor.limits_within none).keeps
  cases ends : poll.computer.status.exit? with
  | some exit =>
    rw [resume_of_concludes (concludes_of_keeps keeps rfl ends), atMost_of_exit? ends,
      exitUnder_of_ne (exit?_ne_stopped ends)]
    rfl
  | none =>
    have running := Status.exit?_eq_none_iff.mp ends
    have passes : (Monitor.within none).Passes poll := passes_of_keeps keeps rfl running
    cases remaining with
    | zero =>
      rw [resume_zero_of_passes passes, atMost_of_running running, following_of_keeps keeps]
      rfl
    | succ remaining =>
      -- What is left falls by one, so the next poll is a smaller case.
      rw [resume_of_passes passes, resume_without remaining, atMost_of_running running,
        following_of_keeps keeps]
      rfl

/-- **A run without a limit is one whose limit the count cannot reach**, and is exhausted where that
one would be stopped. -/
theorem runUntil_within {limit : Option Nat} (bounded : ∀ most ∈ limit, most ≤ countLimit)
    (observer : σ) (start : Computer δ) :
    runUntil (.within limit) observer start =
      ⟨exitUnder limit (atMost (mostSteps limit) start).1, observer,
        start.after (mostSteps limit)⟩ := by
  rw [← computer_atMost]
  cases limit with
  | none => exact resume_without countLimit ⟨0, observer, start⟩
  | some most => exact runUntil_limit (bounded most rfl) observer start

/-! ### Longer runs -/

theorem le_mostSteps {limit : Option Nat} (bound : most ≤ countLimit)
    (within : ∀ other ∈ limit, most ≤ other) : most ≤ mostSteps limit := by
  cases limit with
  | none => exact Nat.le_succ_of_le bound
  | some other => exact within other rfl

/-- **A run that its limit does not stop is the same under any larger one.** -/
theorem atMost_of_le (longer : most ≤ more) (goes : (atMost most start).1 ≠ .stopped) :
    atMost more start = atMost most start := by
  obtain ⟨further, rfl⟩ := Nat.exists_eq_add_of_le longer
  rw [atMost_add, if_neg goes]

/-- What a console shows is never taken back. -/
theorem text_after (start : Computer Console) (count : Nat) :
    ∃ rest, (start.after count).device.text = start.device.text ++ rest := by
  induction count with
  | zero => exact ⟨"", (String.append_empty).symm⟩
  | succ count ih =>
    obtain ⟨rest, shown⟩ := ih
    rw [after_succ, next, step_eq]
    cases (start.after count).machine.output? with
    | none => exact ⟨rest, shown⟩
    | some value =>
      refine ⟨rest ++ Console.line value, ?_⟩
      show (start.after count).device.text ++ Console.line value = _
      rw [shown, String.append_assoc]

theorem text_after_of_le (start : Computer Console) (longer : most ≤ more) :
    ∃ rest, (start.after more).device.text = (start.after most).device.text ++ rest := by
  obtain ⟨further, rfl⟩ := Nat.exists_eq_add_of_le longer
  rw [after_add]
  exact text_after (start.after most) further

end Computer

end ByteMachine
