/-
**The flags are the latest comparison.**

`Machine.comparisons` lists the comparisons that some steps execute, with the values that their
registers hold at that moment. Nothing but a comparison changes the flags.

* `flags_execute`: the flags after one instruction. `flags_next`: after one step.
* `flags_after`: **the latest comparison stays in the flags over any number of steps**, by
  induction on them.
* `Told`: what a history of comparisons tells about a machine. `told_of_flags`: it tells it of every
  machine whose flags are its latest comparison.
-/

import ByteMachine.Proofs.Machine.Course

namespace ByteMachine

/-- The flags that a history of comparisons leaves, by the latest of them. -/
def Flags.latest (history : List (UInt8 × UInt8)) : Flags :=
  match history.getLast? with
  | some (first, second) => .compare first second
  | none => .clear

namespace Machine

/-- The two values that the instruction at the program counter compares, if it compares any. -/
def compared? (machine : Machine) : Option (UInt8 × UInt8) :=
  match machine.current? with
  | some (.alu .compare first second) =>
    some (machine.registers.get first, machine.registers.get second)
  | _ => none

/-- The comparisons that so many steps execute, in their order. -/
def comparisons (machine : Machine) (count : Nat) : List (UInt8 × UInt8) :=
  (List.range count).filterMap fun done => (machine.after done).compared?

/-- A comparison was made, and the latest one found equal values. -/
def lastEqual (history : List (UInt8 × UInt8)) : Bool :=
  history.getLast?.any fun values => values.1 == values.2

/-- **What a history of comparisons tells about a machine**: its flags, and where a jump on them
leads. -/
structure Told (history : List (UInt8 × UInt8)) (machine : Machine) : Prop where
  flags : machine.flags = .latest history
  bits : machine.flags.bits = 0 ∨ machine.flags.bits = 1 ∨ machine.flags.bits = 2 ∨
    machine.flags.bits = 4
  jumpEqual : ∀ address, machine.current? = some (.jumpEqual address) →
    machine.step = .running (machine.moveTo
      (if lastEqual history then machine.registers.get address else machine.pc + 2)) none
  jumpUnequal : ∀ address, machine.current? = some (.jumpUnequal address) →
    machine.step = .running (machine.moveTo
      (if lastEqual history then machine.pc + 2 else machine.registers.get address)) none

variable {machine : Machine} {history : List (UInt8 × UInt8)}

/-! ### The latest comparison -/

theorem latest_append (history : List (UInt8 × UInt8)) (found : Option (UInt8 × UInt8)) :
    Flags.latest (history ++ found.toList) =
      match found with
      | some (first, second) => .compare first second
      | none => .latest history := by
  cases found with
  | none => rw [Option.toList_none, List.append_nil]
  | some values => rw [Option.toList_some, Flags.latest, List.getLast?_concat]

theorem one_bit_of_compare (first second : UInt8) :
    (Flags.compare first second).bits = 1 ∨ (Flags.compare first second).bits = 2 ∨
      (Flags.compare first second).bits = 4 := by
  obtain ⟨-, found⟩ | ⟨-, found⟩ | ⟨-, found⟩ := Flags.compare_cases first second
  · exact .inl (congrArg Flags.bits found)
  · exact .inr (.inl (congrArg Flags.bits found))
  · exact .inr (.inr (congrArg Flags.bits found))

/-- A comparison sets one of three bits, and a machine that made none has no bit set. -/
theorem bits_latest (history : List (UInt8 × UInt8)) :
    (Flags.latest history).bits = 0 ∨ (Flags.latest history).bits = 1 ∨
      (Flags.latest history).bits = 2 ∨ (Flags.latest history).bits = 4 := by
  unfold Flags.latest
  cases history.getLast? with
  | none => exact .inl rfl
  | some values => exact .inr (one_bit_of_compare values.1 values.2)

theorem equal_latest (history : List (UInt8 × UInt8)) :
    (Flags.latest history).equal = lastEqual history := by
  unfold Flags.latest lastEqual
  cases history.getLast? with
  | none => rfl
  | some values =>
    show (Flags.compare values.1 values.2).equal = (values.1 == values.2)
    rw [Flags.equal_compare, beq_eq_decide]

/-! ### Steps -/

/-- **Nothing but a comparison changes the flags.** -/
theorem flags_execute (machine : Machine) (instruction : Instruction) :
    (machine.execute instruction).flags =
      match instruction with
      | .alu .compare first second =>
        .compare (machine.registers.get first) (machine.registers.get second)
      | _ => machine.flags := by
  cases instruction with
  | alu operation first second => cases operation <;> rfl
  | jumpEqual address =>
    show (if machine.flags.equal then _ else _ : Machine).flags = _
    split <;> rfl
  | jumpUnequal address =>
    show (if machine.flags.equal then _ else _ : Machine).flags = _
    split <;> rfl
  | _ => rfl

theorem flags_next (machine : Machine) :
    machine.next.flags =
      match machine.compared? with
      | some (first, second) => .compare first second
      | none => machine.flags := by
  rw [compared?]
  cases found : machine.current? with
  | none =>
    rw [next_of_stuck (stuck_of_missing found)]
  | some instruction =>
    rw [next_of_current? found, flags_execute]
    cases instruction with
    | alu operation first second => cases operation <;> rfl
    | _ => rfl

theorem comparisons_succ (machine : Machine) (count : Nat) :
    machine.comparisons (count + 1) =
      machine.comparisons count ++ (machine.after count).compared?.toList :=
  gathered_succ compared? machine count

/-- **The latest comparison stays in the flags**, whatever is executed. -/
theorem flags_after (known : machine.flags = .latest history) (count : Nat) :
    (machine.after count).flags = .latest (history ++ machine.comparisons count) := by
  induction count with
  | zero =>
    show machine.flags = .latest (history ++ [])
    rw [known, List.append_nil]
  | succ count ih =>
    rw [after_succ, flags_next, comparisons_succ, ← List.append_assoc, latest_append, ih]

/-! ### What the flags tell -/

/-- **Flags that are the latest comparison lead every jump by it.** -/
theorem told_of_flags (known : machine.flags = .latest history) : Told history machine where
  flags := known
  bits := known ▸ bits_latest history
  jumpEqual := fun address found => by
    rw [step_of_fetch?_eq_some found (by simp), execute, known, equal_latest]
    cases lastEqual history <;> rfl
  jumpUnequal := fun address found => by
    rw [step_of_fetch?_eq_some found (by simp), execute, known, equal_latest]
    cases lastEqual history <;> rfl

end Machine

end ByteMachine
