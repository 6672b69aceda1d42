/-
**For its host, memory is a store of 256 bytes.**

The host loads programs and writes bytes, at any addresses and as often as it likes (`StoreCall`). A
call gives values to some addresses (`gives?`): a program that fits one to each address below its
length, a program that does not fit to none, and a write one to its own address.

* `read_serve`: **what a read finds after one call**: the value that the call gives to the address,
  or what was there before, and zero beyond the last cell.
* `read_serveAll`: after any calls it finds the latest value given, by induction on them.
* `serveAll_eq_withRam`: **no call changes anything but memory.**
* `store_bounded`: all of it for any sequence of calls, and how a load fails.
-/

import ByteMachine.Machine
import Mathlib.Data.List.Induction

namespace ByteMachine

/-- A call of the host that is about memory. -/
inductive StoreCall where
  | load (program : List UInt8)
  | write (address : Nat) (value : UInt8)
  deriving DecidableEq, Repr

/-- The value that a call gives to an address, if it gives it one. -/
def StoreCall.gives? (address : Nat) : StoreCall → Option UInt8
  | .load program => if program.length ≤ Ram.size then program[address]? else none
  | .write here value => if here = address then some value else none

namespace Machine

/-- The machine after a call; a load that fails leaves it as it was. -/
def serve (machine : Machine) : StoreCall → Machine
  | .load program => (machine.load program).toOption.getD machine
  | .write address value => machine.writeRam address value

/-- The machine after some calls. -/
def serveAll (machine : Machine) (calls : List StoreCall) : Machine := calls.foldl serve machine

end Machine

/-! ### Reading -/

namespace Ram

theorem read_of_lt {ram : Ram} {address : Nat} (inside : address < size) :
    ram.read address = ram.get (UInt8.ofNat address) := by
  rw [read_eq]
  exact if_pos inside

theorem read_of_not_lt {ram : Ram} {address : Nat} (beyond : ¬ address < size) :
    ram.read address = 0 := by
  rw [read_eq]
  exact if_neg beyond

theorem read_write (ram : Ram) (here : Nat) (value : UInt8) {address : Nat}
    (inside : address < size) :
    (ram.write here value).read address =
      if here = address then value else ram.read address := by
  rw [read_of_lt inside, read_of_lt inside, get_write, UInt8.toNat_ofNat_of_lt' inside]
  simp only [eq_comm]

theorem read_overlay (ram : Ram) (program : List UInt8) {address : Nat}
    (inside : address < size) :
    (ram.overlay program).read address = program[address]?.getD (ram.read address) := by
  rw [read_of_lt inside, read_of_lt inside, get_overlay, UInt8.toNat_ofNat_of_lt' inside]

/-- The whole memory is what reads find in its cells. -/
theorem toList_eq_map_read (ram : Ram) : ram.toList = (List.range size).map ram.read := by
  apply List.ext_getElem
  · simp [toList, size]
  · intro address inside _
    have bound : address < 256 := by simpa [toList] using inside
    simp [toList, read, bound]

end Ram

namespace Machine

variable {machine : Machine} {calls : List StoreCall} {address : Nat}

/-! ### One call -/

/-- **What a read finds after a call.** -/
theorem read_serve (machine : Machine) (call : StoreCall) (inside : address < Ram.size) :
    (machine.serve call).ram.read address =
      (call.gives? address).getD (machine.ram.read address) := by
  cases call with
  | load program =>
    by_cases fits : program.length ≤ Ram.size
    · simp only [serve, load_of_le fits, StoreCall.gives?, if_pos fits]
      exact Ram.read_overlay machine.ram program inside
    · simp only [serve, load_of_lt (Nat.lt_of_not_le fits), StoreCall.gives?, if_neg fits]
      rfl
  | write here value =>
    show (machine.ram.write here value).read address = _
    rw [Ram.read_write machine.ram here value inside, StoreCall.gives?]
    split <;> rfl

/-- **A call changes nothing but memory.** -/
theorem serve_eq_withRam (machine : Machine) (call : StoreCall) :
    machine.serve call = { machine with ram := (machine.serve call).ram } := by
  cases call with
  | load program =>
    by_cases fits : program.length ≤ Ram.size
    · simp only [serve, load_of_le fits]
      rfl
    · simp only [serve, load_of_lt (Nat.lt_of_not_le fits)]
      rfl
  | write here value => rfl

/-- A program that is too large changes nothing. -/
theorem serve_load_of_lt {program : List UInt8} (long : Ram.size < program.length) :
    machine.serve (.load program) = machine := by
  rw [serve, load_of_lt long]
  rfl

/-- A load fails on a program that is too large, and on no other. -/
theorem load_eq_error_iff {program : List UInt8} {fault : Fault} :
    machine.load program = .error fault ↔
      Ram.size < program.length ∧ fault = .programTooLarge program.length := by
  by_cases fits : program.length ≤ Ram.size
  · rw [load_of_le fits]
    simp [Nat.not_lt.mpr fits]
  · rw [load_of_lt (Nat.lt_of_not_le fits), Except.error.injEq, eq_comm]
    exact (and_iff_right (Nat.lt_of_not_le fits)).symm

/-! ### Some calls -/

theorem serveAll_concat (machine : Machine) (calls : List StoreCall) (call : StoreCall) :
    machine.serveAll (calls ++ [call]) = (machine.serveAll calls).serve call := by
  rw [serveAll, List.foldl_append]
  rfl

/-- **A read finds the latest value given to its address.** -/
theorem read_serveAll (machine : Machine) (calls : List StoreCall) (inside : address < Ram.size) :
    (machine.serveAll calls).ram.read address =
      (calls.filterMap (·.gives? address)).getLast?.getD (machine.ram.read address) := by
  induction calls using List.reverseRecOn with
  | nil => rfl
  | append_singleton calls call ih =>
    rw [serveAll_concat, read_serve _ call inside, ih, List.filterMap_append]
    cases given : call.gives? address with
    | none => simp [given]
    | some value => simp [given]

/-- **No call changes anything but memory.** -/
theorem serveAll_eq_withRam (machine : Machine) (calls : List StoreCall) :
    machine.serveAll calls = { machine with ram := (machine.serveAll calls).ram } := by
  induction calls using List.reverseRecOn with
  | nil => rfl
  | append_singleton calls call ih =>
    rw [serveAll_concat, serve_eq_withRam, ih]

/-- **For its host, memory is a store of 256 bytes.** After any loads and writes a read finds the
latest value given to its address, or what was there at the start, and zero beyond the last cell. A
load fails on a program of more than 256 bytes, and on no other, and then changes nothing. Nothing
but memory is ever changed. -/
theorem store_bounded (machine : Machine) (calls : List StoreCall) :
    (∀ address, (machine.serveAll calls).ram.read address =
        if address < Ram.size then
          (calls.filterMap (·.gives? address)).getLast?.getD (machine.ram.read address)
        else 0) ∧
      (machine.serveAll calls).ram.toList =
        (List.range Ram.size).map (machine.serveAll calls).ram.read ∧
      (∀ program fault, (machine.serveAll calls).load program = .error fault ↔
        Ram.size < program.length ∧ fault = .programTooLarge program.length) ∧
      (∀ program, Ram.size < program.length →
        machine.serveAll (calls ++ [.load program]) = machine.serveAll calls) ∧
      (machine.serveAll calls).pc = machine.pc ∧
      (machine.serveAll calls).registers = machine.registers ∧
      (machine.serveAll calls).flags = machine.flags := by
  refine ⟨fun address => ?_, Ram.toList_eq_map_read _, fun _ _ => load_eq_error_iff,
    fun program long => ?_, ?_, ?_, ?_⟩
  · split
    · rename_i inside
      exact read_serveAll machine calls inside
    · rename_i beyond
      exact Ram.read_of_not_lt beyond
  · rw [serveAll_concat, serve_load_of_lt long]
  · rw [serveAll_eq_withRam]
  · rw [serveAll_eq_withRam]
  · rw [serveAll_eq_withRam]

/-- Three bytes, one of them overwritten, two bytes over that, a program that does not fit, and two
writes beyond the last cell. -/
def overlapping : List StoreCall :=
  [.load [1, 2, 3], .write 1 9, .load [4, 5], .load (.replicate 257 7), .write 256 8,
    .write (UInt64.size - 1) 8]

/-- The shorter program keeps the end of the longer one, and the one that does not fit leaves no
trace. -/
theorem overlapping_bounded :
    Ram.size < (List.replicate 257 (7 : UInt8)).length ∧
      (boot.serveAll overlapping).ram.read 1 = 5 ∧
      (boot.serveAll overlapping).ram.read 2 = 3 ∧
      (boot.serveAll overlapping).ram.read (UInt64.size - 1) = 0 ∧
      boot.serveAll (overlapping ++ [.load (.replicate 257 7)]) = boot.serveAll overlapping := by
  have long : Ram.size < (List.replicate 257 (7 : UInt8)).length := by
    rw [List.length_replicate]
    decide
  obtain ⟨reads, -, -, rejects, -⟩ := store_bounded boot overlapping
  refine ⟨long, ?_, ?_, ?_, rejects _ long⟩
  · rw [reads]
    decide +kernel
  · rw [reads]
    decide +kernel
  · rw [reads]
    decide +kernel

end Machine

end ByteMachine
