/-
**A computer: a machine together with the device it prints to.**

`Computer.step` executes one instruction and tells how it went. A halt and a fault change neither
the machine nor the device. `Computer.run?` steps until one of the two, as far as its fuel lasts,
and `Computer.steps` lists the first steps of a run.
-/

import ByteMachine.Device
import ByteMachine.Machine.Execute

namespace ByteMachine

universe u

/-- A machine and its device. -/
structure Computer (δ : Type u) where
  machine : Machine
  device : δ
  deriving DecidableEq, Repr

/-- How a step went. -/
inductive Status where
  | running
  | halted
  | faulted (fault : Fault)
  deriving DecidableEq, Repr

/-- How a run ended. -/
inductive Exit where
  | halted
  /-- The host asked it to stop. -/
  | stopped
  | faulted (fault : Fault)
  /-- The count of executed instructions outgrew its 64 bits. -/
  | exhausted
  deriving DecidableEq, Repr

namespace Computer

variable {δ : Type u} [Device δ]

/-- Executes the instruction at the program counter. -/
def step (computer : Computer δ) : Status × Computer δ :=
  match computer.machine.step with
  | .running next printed => (.running, ⟨next, Device.accept computer.device printed⟩)
  | .halted => (.halted, computer)
  | .faulted fault => (.faulted fault, computer)

/-- The results of the first steps, up to the first that is not `running`. -/
def steps : Nat → Computer δ → List (Status × Computer δ)
  | 0, _ => []
  | count + 1, computer =>
    match computer.step with
    | (.running, next) => (.running, next) :: steps count next
    | last => [last]

/-- Runs to a halt or a fault, if fewer instructions than the fuel are executed before it. -/
def run? : Nat → Computer δ → Option (Exit × Computer δ)
  | 0, _ => none
  | fuel + 1, computer =>
    match computer.step with
    | (.running, next) => run? fuel next
    | (.halted, last) => some (.halted, last)
    | (.faulted fault, last) => some (.faulted fault, last)

end Computer

end ByteMachine
