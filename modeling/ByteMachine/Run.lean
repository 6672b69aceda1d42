/-
**Runs under a monitor.**

A monitor is polled before each fetch with the number of instructions executed so far. It sees the
machine, may change the device, keeps a state of its own and may ask to stop (`Verdict`).
`Computer.runUntil` ends when the monitor stops it, at a halt, at a fault, or when the count
cannot grow any more: it has 64 bits, so a run executes at most `2 ^ 64` instructions and every
run ends.
-/

import ByteMachine.Computer

namespace ByteMachine

universe u v

/-- What a monitor says when it is polled. -/
structure Verdict (σ : Type v) (δ : Type u) where
  stop : Bool
  observer : σ
  /-- The device as the monitor leaves it. -/
  device : δ

/-- A host's watch over a run: it takes the count of executed instructions, the machine, its own
state and the device. -/
abbrev Monitor (σ : Type v) (δ : Type u) := Nat → Machine → σ → δ → Verdict σ δ

namespace Monitor

variable {σ : Type v} {δ : Type u}

/-- The monitor that never stops a run. -/
def never : Monitor σ δ := fun _ _ observer device => ⟨false, observer, device⟩

/-- The monitor that stops a run before it executes more instructions than the limit. -/
def limit (most : Nat) : Monitor σ δ := fun count _ observer device =>
  ⟨decide (most ≤ count), observer, device⟩

end Monitor

/-- A run that is over: how it ended and what it left behind. -/
structure Outcome (σ : Type v) (δ : Type u) where
  exit : Exit
  observer : σ
  computer : Computer δ

namespace Computer

variable {σ : Type v} {δ : Type u} [Device δ]

/-- The largest count of executed instructions. -/
def countLimit : Nat := UInt64.size - 1

/-- Runs on from a count that may grow by `remaining` before it is exhausted. -/
def runFrom (monitor : Monitor σ δ) (remaining count : Nat) (observer : σ)
    (computer : Computer δ) : Outcome σ δ :=
  let verdict := monitor count computer.machine observer computer.device
  let polled : Computer δ := ⟨computer.machine, verdict.device⟩
  if verdict.stop then ⟨.stopped, verdict.observer, polled⟩
  else
    match polled.step with
    | (.halted, last) => ⟨.halted, verdict.observer, last⟩
    | (.faulted fault, last) => ⟨.faulted fault, verdict.observer, last⟩
    | (.running, next) =>
      match remaining with
      | 0 => ⟨.exhausted, verdict.observer, next⟩
      | remaining + 1 => runFrom monitor remaining (count + 1) verdict.observer next

/-- Runs until a halt, a fault, or the monitor's wish to stop. -/
def runUntil (monitor : Monitor σ δ) (observer : σ) (computer : Computer δ) : Outcome σ δ :=
  runFrom monitor countLimit 0 observer computer

end Computer

end ByteMachine
