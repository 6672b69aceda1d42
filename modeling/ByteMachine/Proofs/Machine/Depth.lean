/-
**The stack pointer counts, and memory keeps a log.**

The depth of the stack is the number of pushes and calls less the number of pops and returns so far
(`Machine.depth`). It is an integer: the stack may be popped below where it started, and it may grow
beyond the size of memory and go round its end. As long as no instruction names the stack pointer
as its target (`SparesPointer`),

* `stackPointer_after`: **the stack pointer is its first value less the depth**, modulo 256;
* `log_eq_writes`: each push and each call writes one byte, one below that address, and the log of
  these bytes (`Machine.log`) is all that is written.

`depth_accounts` states both for the whole run. Steps that do not go on count for nothing and
write nothing.
-/

import ByteMachine.Proofs.Machine.Footprint
import Mathlib.Data.List.Basic

namespace ByteMachine

/-- The instruction puts a value on the stack. -/
def Instruction.gives : Instruction → Bool
  | .push _ => true
  | .call _ => true
  | _ => false

namespace Machine

/-! ### The accounts of a run -/

/-- The instructions at which so many steps start, in their order. -/
def instructions (start : Machine) (count : Nat) : List Instruction :=
  (List.range count).filterMap fun done => (start.after done).current?

/-- **The depth of the stack**: pushes and calls, less pops and returns. -/
def depth (start : Machine) (count : Nat) : Int :=
  (start.instructions count).countP Instruction.gives -
    (start.instructions count).countP Instruction.takes

/-- The address at a depth: so far below the first stack pointer, modulo 256. -/
def level (start : Machine) (depth : Int) : UInt8 :=
  .ofInt (start.stackPointer.toNat - depth)

/-- The byte that the step after so many others logs, with its address: a push its register, or the
lowered stack pointer if that is the register, and a call the address behind it. -/
def logged? (start : Machine) (done : Nat) : Option (UInt8 × UInt8) :=
  let machine := start.after done
  let below := start.level (start.depth done + 1)
  match machine.current? with
  | some (.push source) =>
    some (below, if source = .stackPointer then below else machine.registers.get source)
  | some (.call _) => some (below, machine.pc + 2)
  | _ => none

/-- The bytes that so many steps log, in their order. -/
def log (start : Machine) (count : Nat) : List (UInt8 × UInt8) :=
  (List.range count).filterMap start.logged?

/-- None of so many steps names the stack pointer as its target. -/
def SparesPointer (start : Machine) (count : Nat) : Prop :=
  ∀ done < count, (start.after done).current?.bind Instruction.target? ≠ some .stackPointer

instance (start : Machine) (count : Nat) : Decidable (start.SparesPointer count) :=
  inferInstanceAs (Decidable (∀ done < count, _))

variable {start machine : Machine} {instruction : Instruction} {count done : Nat}

/-! ### Depth -/

theorem isSome_stored? (machine : Machine) (instruction : Instruction) :
    (machine.stored? instruction).isSome = instruction.gives := by
  cases instruction <;> rfl

theorem instructions_succ (start : Machine) (count : Nat) :
    start.instructions (count + 1) =
      start.instructions count ++ (start.after count).current?.toList :=
  gathered_succ current? start count

/-- No instruction both puts a value on the stack and takes one off it. -/
theorem depth_succ (found : (start.after count).current? = some instruction) :
    start.depth (count + 1) =
      if instruction.gives then start.depth count + 1
      else if instruction.takes then start.depth count - 1
      else start.depth count := by
  rw [depth, depth, instructions_succ, found, Option.toList_some, List.countP_append,
    List.countP_append, List.countP_singleton, List.countP_singleton]
  cases instruction <;> simp [Instruction.gives, Instruction.takes] <;> omega

theorem depth_succ_of_missing (missing : (start.after count).current? = none) :
    start.depth (count + 1) = start.depth count := by
  rw [depth, depth, instructions_succ, missing, Option.toList_none, List.append_nil]

theorem level_zero (start : Machine) : start.level 0 = start.stackPointer := by
  have small := start.stackPointer.toNat_lt
  rw [level, UInt8.ofInt, Int.sub_zero, Int.emod_eq_of_lt (by omega) (by omega), Int.toNat_natCast,
    UInt8.ofNat_toNat]

/-- One deeper is one lower. -/
theorem level_add_one (start : Machine) (depth : Int) :
    start.level (depth + 1) = start.level depth - 1 := by
  have lower : (start.stackPointer.toNat - (depth + 1) : Int) =
      start.stackPointer.toNat - depth + -1 := by omega
  rw [level, level, lower, UInt8.ofInt_add, UInt8.ofInt_neg, UInt8.ofInt_one, UInt8.sub_eq_add_neg]

theorem level_sub_one (start : Machine) (depth : Int) :
    start.level (depth - 1) = start.level depth + 1 := by
  have lower := level_add_one start (depth - 1)
  rw [Int.sub_add_cancel] at lower
  rw [lower, UInt8.sub_add_cancel]

/-- **The stack pointer is its first value less the depth.** -/
theorem stackPointer_after (spares : start.SparesPointer count) :
    (start.after count).stackPointer = start.level (start.depth count) := by
  induction count with
  | zero => exact (level_zero start).symm
  | succ count ih =>
    have before := ih fun done here => spares done (Nat.lt_succ_of_lt here)
    have kept := spares count (Nat.lt_succ_self count)
    rw [after_succ]
    cases found : (start.after count).current? with
    | none =>
      rw [next_of_stuck (stuck_of_missing found), before, depth_succ_of_missing found]
    | some instruction =>
      rw [found] at kept
      rw [next_of_current? found, stackPointer_execute _ kept, isSome_stored?, before,
        depth_succ found]
      by_cases gives : instruction.gives = true
      · rw [if_pos gives, if_pos gives, level_add_one]
      · rw [if_neg gives, if_neg gives]
        by_cases takes : instruction.takes = true
        · rw [if_pos takes, if_pos takes, level_sub_one]
        · rw [if_neg takes, if_neg takes]

/-! ### The log -/

/-- A step writes what it logs, because the stack pointer is at the depth of the step. -/
theorem write?_eq_logged? (spares : start.SparesPointer done) :
    (start.after done).write? = start.logged? done := by
  have pointer := stackPointer_after spares
  cases found : (start.after done).current? with
  | none =>
    simp only [write?, logged?, found]
    rfl
  | some instruction =>
    rw [write?_of_current? found, pointer]
    simp only [logged?, found, level_add_one, ← pointer]
    cases instruction <;> rfl

theorem log_eq_writes (spares : start.SparesPointer count) : start.log count = start.writes count :=
  List.filterMap_congr fun _ here =>
    (write?_eq_logged? fun earlier before =>
      spares earlier (Nat.lt_trans before (List.mem_range.mp here))).symm

/-- An instruction that puts nothing on the stack leaves memory alone. -/
theorem ram_next_of_not_gives
    (keeps : ∀ instruction, machine.current? = some instruction → instruction.gives = false) :
    machine.next.ram = machine.ram := by
  rw [ram_next]
  cases found : machine.current? with
  | none =>
    rw [write?, found]
    rfl
  | some instruction =>
    have nothing : machine.stored? instruction = none := by
      rw [← Option.not_isSome_iff_eq_none, isSome_stored?, keeps instruction found]
      exact Bool.false_ne_true
    rw [write?_of_current? found, nothing]
    rfl

/-- **The stack pointer counts, and memory keeps the log**, whether the stack is popped below where
it started, goes round the end of memory, or overwrites the program. -/
theorem depth_accounts (spares : start.SparesPointer count) :
    (∀ done ≤ count,
        ((start.after done).stackPointer.toNat : Int) =
            (start.stackPointer.toNat - start.depth done) % 256 ∧
          (start.after done).ram = start.ram.writeAll (start.log done)) ∧
      ∀ done,
        (∀ instruction, (start.after done).current? = some instruction →
            instruction.gives = false) →
          (start.after (done + 1)).ram = (start.after done).ram := by
  refine ⟨fun done within => ?_, fun done keeps => ?_⟩
  · have spares : start.SparesPointer done := fun earlier before =>
      spares earlier (Nat.lt_of_lt_of_le before within)
    refine ⟨?_, ?_⟩
    · rw [stackPointer_after spares, level, UInt8.ofInt, UInt8.toNat_ofNat']
      omega
    · rw [ram_after, log_eq_writes spares]
  · rw [after_succ]
    exact ram_next_of_not_gives keeps

/-- Pops twice, which takes the stack pointer round the end of memory, pushes over its own first
byte, and calls it. -/
def popsFirst : Machine where
  ram := Ram.zero.overlay [0x46, 0, 0x46, 1, 0x45, 7, 0x50, 2]
  registers := Registers.boot.set .stackPointer 0xff
  pc := 0
  flags := .clear

/-- The depth falls to two below zero, and the two writes are at the two ends of memory. -/
theorem popsFirst_accounts :
    SparesPointer popsFirst 4 ∧ popsFirst.depth 2 = -2 ∧
      ((popsFirst.after 2).stackPointer.toNat : Int) = (255 - -2) % 256 ∧
      (popsFirst.after 4).ram = popsFirst.ram.writeAll [(0, 0), (255, 8)] ∧
      (popsFirst.after 2).ram = (popsFirst.after 1).ram := by
  have spares : SparesPointer popsFirst 4 := by decide +kernel
  have deep : popsFirst.depth 2 = -2 := by decide +kernel
  have logged : popsFirst.log 4 = [(0, 0), (255, 8)] := by decide +kernel
  have second : (popsFirst.after 1).current? = some (.pop 1) := by decide +kernel
  obtain ⟨accounts, keeps⟩ := depth_accounts spares
  refine ⟨spares, deep, ?_, ?_, keeps 1 fun instruction found => ?_⟩
  · rw [← deep]
    exact (accounts 2 (by decide)).1
  · rw [← logged]
    exact (accounts 4 (Nat.le_refl 4)).2
  · obtain rfl := Option.some.inj (second.symm.trans found)
    rfl

end Machine

end ByteMachine
