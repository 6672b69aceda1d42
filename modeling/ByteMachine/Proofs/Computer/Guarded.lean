/-
**A run under a monitor is guarded iteration of the step.**

`Guarded` says so of a run that is over. The monitor was polled once before each step, with the
counts from 0 on, and each poll showed the machine after so many steps that went on. All polls but
the last let the run go on, and the last one concludes it.

* `guarded_of_concludes`: polls that pass, and one that concludes, make such a run.
* `exhausted_or_guarded`: **every run is guarded, unless its count is exhausted.**
* `run_agrees`: a monitor that never interferes leaves the run that is made without it.
* `Monitor.Limits`: a monitor that stops a run at its limit and nowhere else. `guarded_of_limits`:
  then the count is never exhausted, and a run is stopped at the very count of the limit.
* `runUntil_guarded`: **the three together.**
-/

import ByteMachine.Proofs.Computer.Outcome

namespace ByteMachine

universe u v

namespace Monitor

variable {σ : Type v} {δ : Type u}

/-- The monitor lets every run go on. -/
def NeverStops (monitor : Monitor σ δ) : Prop :=
  ∀ count machine observer device, (monitor count machine observer device).stop = false

/-- The limit, if there is one, is reached. -/
def reached (limit : Option Nat) (count : Nat) : Bool := limit.any fun most => decide (most ≤ count)

/-- The monitor of a limit, or of none. -/
def within : Option Nat → Monitor σ δ
  | some most => .limit most
  | none => .never

/-- The monitor stops a run at the limit and nowhere else, and leaves the device alone. -/
structure Limits (limit : Option Nat) (monitor : Monitor σ δ) : Prop where
  stop : ∀ count machine observer device,
    (monitor count machine observer device).stop = reached limit count
  keeps : monitor.KeepsDevice

theorem limits_within (limit : Option Nat) : (within limit : Monitor σ δ).Limits limit := by
  cases limit with
  | none => exact ⟨fun _ _ _ _ => rfl, fun _ _ _ _ => rfl⟩
  | some most => exact ⟨fun _ _ _ _ => rfl, fun _ _ _ _ => rfl⟩

end Monitor

namespace Computer

variable {σ : Type v} {δ : Type u} [Device δ] {monitor : Monitor σ δ} {observer : σ}
  {start final : Computer δ} {outcome : Outcome σ δ} {exit : Exit} {last : Nat}

/-- **A run that is over after its monitor was polled `last + 1` times.** -/
structure Guarded (monitor : Monitor σ δ) (observer : σ) (start : Computer δ) (last : Nat)
    (outcome : Outcome σ δ) : Prop where
  /-- With its polls kept the run is the same, and these are the polls. -/
  record : runUntil monitor.recorded (observer, []) start =
    ⟨outcome.exit,
      (outcome.observer, (List.range (last + 1)).map (monitor.pollAfter observer start)),
      outcome.computer⟩
  counts : ∀ index ≤ last, (monitor.pollAfter observer start index).count = index
  machines : ∀ index ≤ last,
    (monitor.pollAfter observer start index).computer.machine = start.machine.after index
  passes : ∀ index < last, monitor.Passes (monitor.pollAfter observer start index)
  concludes : monitor.Concludes (monitor.pollAfter observer start last) outcome

/-! ### Every run that is over -/

/-- A run is what its polls make of it. -/
theorem runUntil_of_concludes (bound : last ≤ countLimit)
    (passes : ∀ index < last, monitor.Passes (monitor.pollAfter observer start index))
    (concludes : monitor.Concludes (monitor.pollAfter observer start last) outcome) :
    runUntil monitor observer start = outcome := by
  have left : countLimit - last + last = countLimit := Nat.sub_add_cancel bound
  show resume monitor countLimit ⟨0, observer, start⟩ = outcome
  rw [← left, resume_iterate passes]
  exact resume_of_concludes concludes

theorem guarded_of_concludes (bound : last ≤ countLimit)
    (passes : ∀ index < last, monitor.Passes (monitor.pollAfter observer start index))
    (concludes : monitor.Concludes (monitor.pollAfter observer start last) outcome) :
    Guarded monitor observer start last outcome where
  record := by
    -- The recording monitor is polled with the same computers: its polls pass and conclude alike.
    have recorded := Monitor.pollAfter_recorded monitor observer start
    refine runUntil_of_concludes bound (fun index within => ?_) ?_
    · rw [recorded]
      exact ⟨(passes index within).allowed, (passes index within).running⟩
    · rw [recorded, List.range_succ, List.map_append]
      exact concludes.recorded _
  counts := fun index _ => Monitor.count_pollAfter monitor observer start index
  machines := fun index _ => Monitor.machine_pollAfter monitor observer start index
  passes := passes
  concludes := concludes

/-- **Every run is guarded, unless its count is exhausted.** -/
theorem exhausted_or_guarded (monitor : Monitor σ δ) (observer : σ) (start : Computer δ) :
    ((runUntil monitor observer start).exit = .exhausted ∧
        ∀ index < countLimit + 1, monitor.Passes (monitor.pollAfter observer start index)) ∨
      ∃ last ≤ countLimit,
        Guarded monitor observer start last (runUntil monitor observer start) := by
  rcases resume_cases monitor countLimit ⟨0, observer, start⟩ with
    ⟨exhausted, passes⟩ | ⟨last, bound, passes, concludes⟩
  · exact .inl ⟨congrArg Outcome.exit exhausted, passes⟩
  · exact .inr ⟨last, bound, guarded_of_concludes bound passes concludes⟩

theorem exists_guarded (ended : (runUntil monitor observer start).exit ≠ .exhausted) :
    ∃ last, Guarded monitor observer start last (runUntil monitor observer start) := by
  rcases exhausted_or_guarded monitor observer start with ⟨exhausted, -⟩ | ⟨last, -, guarded⟩
  · exact absurd exhausted ended
  · exact ⟨last, guarded⟩

/-! ### Monitors that do not interfere -/

/-- One run under such a monitor from any poll, and the run without it. -/
theorem resume_of_run? {remaining fuel : Nat} (free : monitor.NeverStops)
    (keeps : monitor.KeepsDevice) (poll : Poll σ δ) (enough : fuel ≤ remaining + 1)
    (ended : run? fuel poll.computer = some (exit, final)) :
    (resume monitor remaining poll).exit = exit ∧
      (resume monitor remaining poll).computer = final := by
  induction fuel generalizing remaining poll with
  | zero => cases ended
  | succ fuel ih =>
    have allowed : (monitor.answer poll).stop = false := free ..
    by_cases running : poll.computer.status = .running
    · rw [run?_of_running running] at ended
      cases remaining with
      | zero =>
        obtain rfl : fuel = 0 := Nat.le_zero.mp (Nat.le_of_succ_le_succ enough)
        cases ended
      | succ remaining =>
        rw [resume_of_passes (passes_of_keeps keeps allowed running)]
        refine ih (monitor.following poll) (Nat.le_of_succ_le_succ enough) ?_
        rw [following_of_keeps keeps]
        exact ended
    · obtain ⟨stop, ends⟩ := Status.exists_exit? running
      rw [run?_of_exit? ends] at ended
      cases ended
      rw [resume_of_concludes (concludes_of_keeps keeps allowed ends)]
      exact ⟨rfl, rfl⟩

/-- A run without a monitor that is over after so many steps is the run with it. -/
theorem run_agrees (free : monitor.NeverStops) (keeps : monitor.KeepsDevice) {executed : Nat}
    (bound : executed ≤ countLimit) (ended : run? (executed + 1) start = some (exit, final)) :
    (runUntil monitor observer start).exit = exit ∧
      (runUntil monitor observer start).computer = final :=
  resume_of_run? free keeps ⟨0, observer, start⟩ (Nat.succ_le_succ bound) ended

/-! ### Monitors that apply a limit -/

section Limits

variable {limit : Option Nat} {most : Nat}

theorem stop_pollAfter (limits : monitor.Limits limit) (count : Nat) :
    (monitor.answer (monitor.pollAfter observer start count)).stop =
      Monitor.reached limit count := by
  rw [Monitor.answer, limits.stop, Monitor.count_pollAfter]

/-- The poll with the count of the limit does not pass. -/
theorem not_passes_of_limits (limits : monitor.Limits (some most)) :
    ¬ monitor.Passes (monitor.pollAfter observer start most) := by
  intro passes
  have allowed := passes.allowed
  rw [stop_pollAfter limits, Monitor.reached, Option.any_some,
    decide_eq_true (Nat.le_refl most)] at allowed
  cases allowed

/-- A run is stopped at the very count of its limit, because it went on at all counts before. -/
theorem limit_of_reached (limits : monitor.Limits limit)
    (guarded : Guarded monitor observer start last outcome)
    (asked : Monitor.reached limit last = true) : limit = some last := by
  cases limit with
  | none => cases asked
  | some most =>
    -- A limit below the last poll would have stopped the run there.
    have within : most ≤ last := of_decide_eq_true asked
    refine congrArg some (Nat.le_antisymm within (Nat.le_of_not_lt fun before => ?_))
    exact not_passes_of_limits limits (guarded.passes most before)

theorem limit_of_stopped (limits : monitor.Limits limit)
    (guarded : Guarded monitor observer start last outcome) (stopped : outcome.exit = .stopped) :
    limit = some last := by
  refine limit_of_reached limits guarded ?_
  have concludes := guarded.concludes
  cases concludes with
  | stopped asked => rwa [stop_pollAfter limits] at asked
  | @ended status exit final _ _ ends =>
    obtain rfl : exit = .stopped := stopped
    cases status <;> cases ends

/-- The poll with the number of the limit is the last one at the latest. -/
theorem guarded_of_limits (limits : monitor.Limits (some most)) (bound : most ≤ countLimit)
    (observer : σ) (start : Computer δ) :
    ∃ last ≤ most,
      Guarded monitor observer start last (runUntil monitor observer start) ∧
        ((runUntil monitor observer start).exit = .stopped → last = most) := by
  have blocked : ¬ monitor.Passes (monitor.pollAfter observer start most) :=
    not_passes_of_limits limits
  rcases exhausted_or_guarded monitor observer start with ⟨-, passes⟩ | ⟨last, -, guarded⟩
  · exact absurd (passes most (Nat.lt_succ_of_le bound)) blocked
  · have within : last ≤ most := Nat.le_of_not_lt fun beyond => blocked (guarded.passes most beyond)
    refine ⟨last, within, guarded, fun stopped => ?_⟩
    exact (Option.some.inj (limit_of_stopped limits guarded stopped)).symm

/-- Under a limit the count is never exhausted. -/
theorem guarded_limit (bound : most ≤ countLimit) (observer : σ) (start : Computer δ) :
    ∃ last ≤ most,
      Guarded (.limit most) observer start last (runUntil (.limit most) observer start) ∧
        ((runUntil (.limit most) observer start).exit = .stopped → last = most) :=
  guarded_of_limits (Monitor.limits_within (some most)) bound observer start

end Limits

/-! ### The three together -/

/-- **A run under a monitor is guarded iteration of the step.** If it returns, it is guarded. Under
a monitor that never interferes it is the run without one, if that is over within the count. Under
a limit it returns, after no more steps than the limit, and with the wish to stop after just as
many; the count never grows beyond the limit. -/
theorem runUntil_guarded (start : Computer δ) :
    (∀ (monitor : Monitor σ δ) observer,
        (runUntil monitor observer start).exit ≠ .exhausted →
          ∃ last ≤ countLimit,
            Guarded monitor observer start last (runUntil monitor observer start)) ∧
      (∀ (monitor : Monitor σ δ) observer, monitor.NeverStops → monitor.KeepsDevice →
        ∀ executed ≤ countLimit, ∀ exit final, run? (executed + 1) start = some (exit, final) →
          (runUntil monitor observer start).exit = exit ∧
            (runUntil monitor observer start).computer = final) ∧
      ∀ most ≤ countLimit, ∀ observer : σ,
        (runUntil (.limit most) observer start).exit ≠ .exhausted ∧
          ∃ last ≤ most,
            Guarded (.limit most) observer start last (runUntil (.limit most) observer start) ∧
              ((runUntil (.limit most) observer start).exit = .stopped → last = most) := by
  refine ⟨fun monitor observer returns => ?_, ?_, fun most bound observer => ?_⟩
  · rcases exhausted_or_guarded monitor observer start with ⟨exhausted, -⟩ | guarded
    · exact absurd exhausted returns
    · exact guarded
  · intro monitor observer free keeps executed bound exit final ended
    exact run_agrees free keeps bound ended
  · obtain ⟨last, within, guarded, full⟩ := guarded_limit bound observer start
    exact ⟨guarded.concludes.ne_exhausted, last, within, guarded, full⟩

/-- Counts its polls, and writes the count of executed instructions to the device. -/
def stamps : Monitor Nat (Array UInt8) := fun count _ polls device =>
  ⟨false, polls + 1, device.push (UInt8.ofNat count)⟩

/-- A monitor that writes between the steps; the same program without a monitor, and under a limit
that stops it before its halt. -/
theorem printsPointer_stamped :
    (∃ last, Guarded stamps 0 printsPointer last (runUntil stamps 0 printsPointer)) ∧
      (runUntil stamps 0 printsPointer).exit = .halted ∧
      (runUntil stamps 0 printsPointer).computer.device = #[0, 0xf4, 1] ∧
      (runUntil Monitor.never 0 printsPointer).computer = printsPointer.after 1 ∧
      (runUntil (Monitor.limit 1) 0 printsPointer).exit = .stopped ∧
      Guarded (Monitor.limit 1) 0 printsPointer 1 (runUntil (Monitor.limit 1) 0 printsPointer) := by
  obtain ⟨guarded, agrees, limited⟩ := runUntil_guarded (σ := Nat) printsPointer
  have halted : (runUntil stamps 0 printsPointer).exit = .halted := by decide +kernel
  have device : (runUntil stamps 0 printsPointer).computer.device = #[0, 0xf4, 1] := by
    decide +kernel
  have ended : run? 2 printsPointer = some (.halted, printsPointer.after 1) := by
    have first : printsPointer.status = .running := by decide +kernel
    have second : (printsPointer.after 1).status.exit? = some .halted := by decide +kernel
    exact (run?_of_running first).trans (run?_of_exit? second)
  have stopped : (runUntil (Monitor.limit 1) 0 printsPointer).exit = .stopped := by decide +kernel
  have small : 1 ≤ countLimit := by decide
  obtain ⟨-, last, -, slice, full⟩ := limited 1 small 0
  obtain rfl := full stopped
  have returns : (runUntil stamps 0 printsPointer).exit ≠ .exhausted := by
    rw [halted]
    simp
  obtain ⟨polls, -, watched⟩ := guarded stamps 0 returns
  have never := agrees Monitor.never 0 (fun _ _ _ _ => rfl) (fun _ _ _ _ => rfl)
  exact ⟨⟨polls, watched⟩, halted, device, (never 1 small .halted _ ended).2, stopped, slice⟩

end Computer

end ByteMachine
