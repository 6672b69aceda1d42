/-
**Pausing and resuming a run is invisible.**

A limit on the steps may be given in slices. Each slice is a run of its own, which counts from 0
again, and the next one starts where it was stopped (`runSlices`).

* `atMost`: a run under a limit without its count. It recurs on the limit, and `runUntil_limit` says
  that the count and what is left of it play no other part.
* `atMost_add`: so many steps, and so many more if they were not enough.
* `runSlices_eq`, `runUntil_slices`: **slices are a run under their sum**, two of them or a list.
-/

import ByteMachine.Proofs.Computer.Outcome
import Mathlib.Algebra.GroupWithZero.Nat

namespace ByteMachine.Computer

universe u v

variable {σ : Type v} {δ : Type u} [Device δ]

/-- At most so many steps; a run that they do not end is stopped. -/
def atMost : Nat → Computer δ → Exit × Computer δ
  | 0, computer => (.stopped, computer)
  | most + 1, computer =>
    match computer.status.exit? with
    | some exit => (exit, computer)
    | none => atMost most computer.next

/-- One run after the other, until one is not stopped by its limit. -/
def runSlices : List Nat → σ → Computer δ → Outcome σ δ
  | [], observer, computer => ⟨.stopped, observer, computer⟩
  | slice :: rest, observer, computer =>
    let outcome := runUntil (.limit slice) observer computer
    if outcome.exit = .stopped then runSlices rest outcome.observer outcome.computer else outcome

/-! ### Steps without a count -/

theorem atMost_of_running {computer : Computer δ} (running : computer.status = .running)
    (most : Nat) : atMost (most + 1) computer = atMost most computer.next := by
  rw [atMost, Status.exit?_eq_none_iff.mpr running]

theorem atMost_of_exit? {computer : Computer δ} {exit : Exit}
    (ends : computer.status.exit? = some exit) (most : Nat) :
    atMost (most + 1) computer = (exit, computer) := by
  rw [atMost, ends]

theorem exit?_ne_stopped {status : Status} {exit : Exit} (ends : status.exit? = some exit) :
    exit ≠ .stopped := by
  rintro rfl
  cases status <;> cases ends

theorem atMost_add (first second : Nat) (computer : Computer δ) :
    atMost (first + second) computer =
      if (atMost first computer).1 = .stopped then atMost second (atMost first computer).2
      else atMost first computer := by
  induction first generalizing computer with
  | zero => rw [Nat.zero_add, atMost, if_pos rfl]
  | succ first ih =>
    rw [Nat.succ_add]
    cases ends : computer.status.exit? with
    | some exit => rw [atMost_of_exit? ends, atMost_of_exit? ends, if_neg (exit?_ne_stopped ends)]
    | none =>
      have running := Status.exit?_eq_none_iff.mp ends
      rw [atMost_of_running running, atMost_of_running running]
      exact ih computer.next

/-! ### Runs under a limit -/

omit [Device δ] in
theorem keepsDevice_limit (most : Nat) : (Monitor.limit most : Monitor σ δ).KeepsDevice :=
  fun _ _ _ _ => rfl

theorem resume_limit_of_le {most : Nat} {poll : Poll σ δ} (reached : most ≤ poll.count)
    (remaining : Nat) :
    resume (.limit most) remaining poll = ⟨.stopped, poll.observer, poll.computer⟩ := by
  have concludes : (Monitor.limit most).Concludes poll _ := .stopped (decide_eq_true reached)
  rw [resume_of_concludes concludes, polled_of_keeps (keepsDevice_limit most)]
  rfl

/-- From any poll on, only the distance between its count and the limit matters. -/
theorem resume_limit (most remaining : Nat) (poll : Poll σ δ)
    (reaches : most ≤ poll.count + remaining) :
    resume (.limit most) remaining poll =
      ⟨(atMost (most - poll.count) poll.computer).1, poll.observer,
        (atMost (most - poll.count) poll.computer).2⟩ := by
  induction remaining generalizing poll with
  | zero =>
    rw [Nat.add_zero] at reaches
    rw [resume_limit_of_le reaches, Nat.sub_eq_zero_of_le reaches]
    rfl
  | succ remaining ih =>
    by_cases reached : most ≤ poll.count
    · rw [resume_limit_of_le reached, Nat.sub_eq_zero_of_le reached]
      rfl
    · have allowed : ((Monitor.limit most).answer poll).stop = false := decide_eq_false reached
      -- The distance falls by one as the count rises, so the next poll is within reach as well.
      have left : most - poll.count = most - (poll.count + 1) + 1 := by omega
      cases ends : poll.computer.status.exit? with
      | some exit =>
        have concludes := concludes_of_keeps (keepsDevice_limit most) allowed ends
        rw [resume_of_concludes concludes, left, atMost_of_exit? ends]
        rfl
      | none =>
        have running := Status.exit?_eq_none_iff.mp ends
        have later := ih ((Monitor.limit most).following poll) (by
          show most ≤ poll.count + 1 + remaining
          omega)
        have passes := passes_of_keeps (keepsDevice_limit most) allowed running
        rw [resume_of_passes passes, later, left, atMost_of_running running,
          following_of_keeps (keepsDevice_limit most)]
        rfl

/-- **A run under a limit is its steps up to the limit**; the count only bounds the limit. -/
theorem runUntil_limit {most : Nat} (bound : most ≤ countLimit) (observer : σ)
    (start : Computer δ) :
    runUntil (.limit most) observer start =
      ⟨(atMost most start).1, observer, (atMost most start).2⟩ := by
  have whole : most ≤ 0 + countLimit := by rwa [Nat.zero_add]
  exact resume_limit most countLimit ⟨0, observer, start⟩ whole

/-! ### Slices -/

theorem runSlices_eq (slices : List Nat) (bound : slices.sum ≤ countLimit) (observer : σ)
    (start : Computer δ) :
    runSlices slices observer start =
      ⟨(atMost slices.sum start).1, observer, (atMost slices.sum start).2⟩ := by
  induction slices generalizing start with
  | nil => rfl
  | cons slice rest ih =>
    rw [List.sum_cons] at bound
    rw [runSlices, runUntil_limit (Nat.le_of_add_right_le bound), List.sum_cons, atMost_add]
    dsimp only
    by_cases stopped : (atMost slice start).1 = .stopped
    · rw [if_pos stopped, if_pos stopped]
      exact ih (Nat.le_of_add_left_le bound) _
    · rw [if_neg stopped, if_neg stopped]

/-- **Pausing and resuming is invisible.** A run under a limit is a run under a part of it, gone on
with under the rest if it was stopped; and it is a run in slices of the limit, however many. -/
theorem runUntil_slices (observer : σ) (start : Computer δ) :
    (∀ first second, first + second ≤ countLimit →
        runUntil (.limit (first + second)) observer start =
          let paused := runUntil (.limit first) observer start
          if paused.exit = .stopped then
            runUntil (.limit second) paused.observer paused.computer
          else paused) ∧
      ∀ slices : List Nat, slices.sum ≤ countLimit →
        runSlices slices observer start = runUntil (.limit slices.sum) observer start := by
  refine ⟨fun first second bound => ?_, fun slices bound => ?_⟩
  · have firstBound := Nat.le_of_add_right_le bound
    have secondBound := Nat.le_of_add_left_le bound
    rw [runUntil_limit bound, runUntil_limit firstBound, atMost_add]
    dsimp only
    rw [runUntil_limit secondBound]
    by_cases stopped : (atMost first start).1 = .stopped
    · rw [if_pos stopped, if_pos stopped]
    · rw [if_neg stopped, if_neg stopped]
  · rw [runSlices_eq slices bound, runUntil_limit bound]

/-- A slice that ends right before the halt, empty slices, and one that outlives the program. -/
theorem printsPointer_in_slices :
    runUntil (.limit (1 + 5)) () printsPointer =
        runUntil (.limit 5) () (runUntil (.limit 1) () printsPointer).computer ∧
      (runUntil (.limit 1) () printsPointer).exit = .stopped ∧
      runSlices [0, 1, 0, 5] () printsPointer = runUntil (.limit 6) () printsPointer ∧
      (runSlices [0, 1, 0, 5] () printsPointer).exit = .halted := by
  obtain ⟨two, many⟩ := runUntil_slices () printsPointer
  have stopped : (runUntil (.limit 1) () printsPointer).exit = .stopped := by decide +kernel
  have halted : (runUntil (.limit 6) () printsPointer).exit = .halted := by decide +kernel
  have joined := two 1 5 (by decide)
  have sliced := many [0, 1, 0, 5] (by decide)
  refine ⟨?_, stopped, sliced, ?_⟩
  · rw [joined]
    exact if_pos stopped
  · rw [sliced]
    exact halted

end ByteMachine.Computer
