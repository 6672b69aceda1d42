/-
**The stack in memory is a list.**

Beside a run a list is kept (`Machine.ghost`): a push and a call put on it what they store, a pop
and a return drop its head. As long as the run is `Disciplined` (no instruction names the stack
pointer as its target, the list is not popped when empty and holds no more values than memory has
cells), the list is what memory holds upwards from the stack pointer.

* `Laid`: the stack pointer counts the list, the list stands in memory from it on, and no cell
  below the deepest point was touched. `Laid.stored`, `Laid.taken` and `Laid.kept` are the three
  moves, `laid_succ` is one step and `laid_after` **the whole run**.
* `Delivers`: a pop and a return deliver the head of the list.
* `Answers`: the return that takes off what a call put on. It **goes on behind the call, with the
  stack pointer of the call** (`resumes_of_answers`), whatever ran in between.
-/

import ByteMachine.Proofs.Machine.Course
import ByteMachine.Proofs.Machine.Effect
import Mathlib.Data.Nat.Init

namespace ByteMachine.Machine

/-! ### The list beside the run -/

/-- What the instruction at the program counter makes of the list. -/
def ghostAfter (machine : Machine) (ghost : List UInt8) : List UInt8 :=
  match machine.current? with
  | none => ghost
  | some instruction =>
    match machine.stored? instruction with
    | some value => value :: ghost
    | none => if instruction.takes then ghost.tail else ghost

/-- The list after some steps from a machine; it starts empty. -/
def ghost (start : Machine) : Nat → List UInt8
  | 0 => []
  | count + 1 => (start.after count).ghostAfter (ghost start count)

/-- The greatest length of the list so far. -/
def deepest (start : Machine) : Nat → Nat
  | 0 => 0
  | count + 1 => max (deepest start count) (start.ghost (count + 1)).length

/-- A run that uses the stack as a stack. -/
structure Disciplined (start : Machine) (count : Nat) : Prop where
  running : ∀ done < count, (start.after done).status = .running
  keepsPointer : ∀ done < count,
    (start.after done).current?.bind Instruction.target? ≠ some .stackPointer
  neverEmpty : ∀ done < count,
    (start.after done).current?.any Instruction.takes = true → start.ghost done ≠ []
  bounded : ∀ done ≤ count, (start.ghost done).length ≤ Ram.size

/-- **The list stands in memory.** -/
structure Laid (start : Machine) (depth : Nat) (machine : Machine) (ghost : List UInt8) :
    Prop where
  pointer : machine.stackPointer = start.stackPointer - UInt8.ofNat ghost.length
  window : ∀ index (bound : index < ghost.length),
    machine.ram.get (machine.stackPointer + UInt8.ofNat index) = ghost[index]
  frame : ∀ address,
    (∀ below, 1 ≤ below → below ≤ depth → address ≠ start.stackPointer - UInt8.ofNat below) →
      machine.ram.get address = start.ram.get address

/-- A pop and a return deliver the head of the list. -/
structure Delivers (start : Machine) (done : Nat) : Prop where
  pop : ∀ target, (start.after done).current? = some (.pop target) →
    (start.ghost done).head? = some ((start.after (done + 1)).registers.get target)
  ret : (start.after done).current? = some .ret →
    (start.ghost done).head? = some (start.after (done + 1)).pc

/-- The return at one step takes off the list what the call at an earlier step put on it: the list
stays longer than before the call, and is one value longer at the return. -/
structure Answers (start : Machine) (call ret : Nat) : Prop where
  order : call < ret
  calls : ∃ address, (start.after call).current? = some (.call address)
  returns : (start.after ret).current? = some .ret
  above : ∀ done, call < done → done ≤ ret →
    (start.ghost call).length < (start.ghost done).length
  level : (start.ghost ret).length = (start.ghost call).length + 1

/-! ### The three moves -/

section Moves

variable {start machine next : Machine} {depth deeper : Nat} {ghost : List UInt8}

theorem Laid.nil (start : Machine) : Laid start 0 start [] where
  pointer := (UInt8.sub_zero start.stackPointer).symm
  window := fun index bound => absurd bound (Nat.not_lt_zero index)
  frame := fun _ _ => rfl

/-- The deeper the deepest point, the fewer cells are promised to be untouched. -/
theorem Laid.deepen (laid : Laid start depth machine ghost) (deepens : depth ≤ deeper) :
    Laid start deeper machine ghost where
  pointer := laid.pointer
  window := laid.window
  frame := fun address outside => laid.frame address fun below one least =>
    outside below one (Nat.le_trans least deepens)

theorem Laid.kept (laid : Laid start depth machine ghost)
    (pointer : next.stackPointer = machine.stackPointer) (ram : next.ram = machine.ram) :
    Laid start depth next ghost where
  pointer := pointer.trans laid.pointer
  window := by
    rw [pointer, ram]
    exact laid.window
  frame := by
    rw [ram]
    exact laid.frame

theorem Laid.taken (laid : Laid start depth machine ghost) (nonempty : ghost ≠ [])
    (pointer : next.stackPointer = machine.stackPointer + 1) (ram : next.ram = machine.ram) :
    Laid start depth next ghost.tail where
  pointer := by
    obtain ⟨head, rest, rfl⟩ := List.exists_cons_of_ne_nil nonempty
    have before := laid.pointer
    rw [List.length_cons, UInt8.ofNat_add] at before
    rw [pointer, before, List.tail_cons]
    grind
  window := fun index bound => by
    rw [List.length_tail] at bound
    have above : next.stackPointer + UInt8.ofNat index =
        machine.stackPointer + UInt8.ofNat (index + 1) := by
      rw [pointer, UInt8.ofNat_add]
      grind
    rw [ram, above, laid.window (index + 1) (by omega), List.getElem_tail]
  frame := by
    rw [ram]
    exact laid.frame

/-- Fewer than 256 cells up from an address is never one below it. -/
theorem up_ne_down {index : Nat} (bound : index + 1 < 256) (address : UInt8) :
    address + UInt8.ofNat index ≠ address - 1 := by
  intro same
  have wraps : UInt8.ofNat (index + 1) = 0 := by
    rw [UInt8.ofNat_add]
    grind
  have whole := congrArg UInt8.toNat wraps
  rw [UInt8.toNat_ofNat', UInt8.toNat_zero] at whole
  omega

/-- A value is stored one below the stack pointer. That cell is none of the list's, because the
list does not go all the way round. -/
theorem Laid.stored {value : UInt8} (laid : Laid start depth machine ghost)
    (reaches : ghost.length + 1 ≤ depth) (room : ghost.length + 1 ≤ 256)
    (pointer : next.stackPointer = machine.stackPointer - 1)
    (ram : next.ram = machine.ram.set (machine.stackPointer - 1) value) :
    Laid start depth next (value :: ghost) where
  pointer := by
    rw [pointer, laid.pointer, List.length_cons, UInt8.ofNat_add]
    grind
  window := fun index bound => by
    rw [ram, pointer, Ram.get_set]
    cases index with
    | zero => exact if_pos (UInt8.add_zero _)
    | succ index =>
      have inside : index < ghost.length := Nat.lt_of_succ_lt_succ bound
      have above : machine.stackPointer - 1 + UInt8.ofNat (index + 1) =
          machine.stackPointer + UInt8.ofNat index := by
        rw [UInt8.ofNat_add]
        grind
      rw [above, if_neg (up_ne_down (by omega) machine.stackPointer), laid.window index inside,
        List.getElem_cons_succ]
  frame := fun address outside => by
    have written : machine.stackPointer - 1 =
        start.stackPointer - UInt8.ofNat (ghost.length + 1) := by
      rw [laid.pointer, UInt8.ofNat_add]
      grind
    have other := outside (ghost.length + 1) (Nat.le_add_left 1 _) reaches
    rw [ram, Ram.get_set, written, if_neg other]
    exact laid.frame address outside

end Moves

/-! ### One step, and the whole run -/

theorem deepest_mono (start : Machine) (count : Nat) :
    start.deepest count ≤ start.deepest (count + 1) :=
  Nat.le_max_left _ _

theorem length_ghost_le_deepest (start : Machine) (count : Nat) :
    (start.ghost count).length ≤ start.deepest count := by
  cases count with
  | zero => exact Nat.le_refl 0
  | succ count => exact Nat.le_max_right _ _

section Run

variable {start : Machine} {count done : Nat} {instruction : Instruction}

theorem ghost_succ (found : (start.after done).current? = some instruction) :
    start.ghost (done + 1) =
      match (start.after done).stored? instruction with
      | some value => value :: start.ghost done
      | none => if instruction.takes then (start.ghost done).tail else start.ghost done := by
  rw [ghost, ghostAfter, found]

theorem after_succ_of_current? (found : (start.after done).current? = some instruction) :
    start.after (done + 1) = (start.after done).execute instruction :=
  (after_succ start done).trans (next_of_current? found)

/-- Every step of a disciplined run executes an instruction that leaves the stack pointer to the
stack. -/
theorem Disciplined.current (disciplined : Disciplined start count) (here : done < count) :
    ∃ instruction, (start.after done).current? = some instruction ∧
      instruction.target? ≠ some .stackPointer := by
  obtain ⟨instruction, found, -⟩ := status_eq_running_iff.mp (disciplined.running done here)
  have kept := disciplined.keepsPointer done here
  rw [found] at kept
  exact ⟨instruction, found, kept⟩

/-- What is taken is on the list. -/
theorem Disciplined.ghost_ne_nil (disciplined : Disciplined start count) (here : done < count)
    (found : (start.after done).current? = some instruction) (takes : instruction.takes = true) :
    start.ghost done ≠ [] := by
  refine disciplined.neverEmpty done here ?_
  rw [found]
  exact takes

theorem laid_succ (disciplined : Disciplined start count) (here : done < count)
    (laid : Laid start (start.deepest done) (start.after done) (start.ghost done)) :
    Laid start (start.deepest (done + 1)) (start.after (done + 1)) (start.ghost (done + 1)) := by
  obtain ⟨instruction, found, kept⟩ := disciplined.current here
  have deepened := laid.deepen (deepest_mono start done)
  have pointer := stackPointer_execute (start.after done) kept
  have ram := ram_execute (start.after done) instruction
  have list := ghost_succ found
  have reaches := length_ghost_le_deepest start (done + 1)
  have room := disciplined.bounded (done + 1) here
  rw [← after_succ_of_current? found] at pointer ram
  cases stored : (start.after done).stored? instruction with
  | some value =>
    rw [stored] at pointer ram list
    rw [list, List.length_cons] at reaches room
    rw [list]
    exact deepened.stored reaches room pointer ram
  | none =>
    rw [stored] at pointer ram list
    rw [list]
    by_cases takes : instruction.takes = true
    · rw [if_pos takes]
      rw [if_neg (by simp), if_pos takes] at pointer
      exact deepened.taken (disciplined.ghost_ne_nil here found takes) pointer ram
    · rw [if_neg takes]
      rw [if_neg (by simp), if_neg takes] at pointer
      exact deepened.kept pointer ram

/-- **All through a disciplined run the list stands in memory.** -/
theorem laid_after (disciplined : Disciplined start count) (within : done ≤ count) :
    Laid start (start.deepest done) (start.after done) (start.ghost done) := by
  induction done with
  | zero => exact Laid.nil start
  | succ done before => exact laid_succ disciplined within (before (Nat.le_of_lt within))

/-! ### What is delivered -/

theorem Laid.head? {machine : Machine} {depth : Nat} {ghost : List UInt8}
    (laid : Laid start depth machine ghost) (nonempty : ghost ≠ []) :
    ghost.head? = some machine.top := by
  obtain ⟨head, rest, rfl⟩ := List.exists_cons_of_ne_nil nonempty
  have here := laid.window 0 (Nat.zero_lt_succ rest.length)
  rw [show UInt8.ofNat 0 = 0 from rfl, UInt8.add_zero] at here
  exact congrArg some here.symm

/-- **A pop and a return deliver the head of the list.** -/
theorem delivers_of_disciplined (disciplined : Disciplined start count) (here : done < count) :
    Delivers start done := by
  have laid := laid_after disciplined (Nat.le_of_lt here)
  refine ⟨fun target found => ?_, fun found => ?_⟩
  · obtain ⟨instruction, found', kept⟩ := disciplined.current here
    obtain rfl : Instruction.pop target = instruction := Option.some.inj (found.symm.trans found')
    have other : target ≠ .stackPointer := fun same => kept (congrArg some same)
    rw [laid.head? (disciplined.ghost_ne_nil here found rfl), after_succ_of_current? found]
    show _ = some (Registers.get (Registers.set (Registers.set _ target _) .stackPointer _) target)
    rw [Registers.get_set, if_neg other, Registers.get_set, if_pos rfl]
  · rw [laid.head? (disciplined.ghost_ne_nil here found rfl), after_succ_of_current? found]
    rfl

/-! ### Calls and the returns that answer them -/

section Answers

variable {call ret : Nat}

theorem Answers.ghost_call (answers : Answers start call ret) :
    start.ghost (call + 1) = ((start.after call).pc + 2) :: start.ghost call := by
  obtain ⟨address, found⟩ := answers.calls
  exact ghost_succ found

/-- From a call to its return the list ends in what it was right after the call. -/
theorem Answers.suffix (answers : Answers start call ret) (disciplined : Disciplined start count)
    (before : ret < count) (later : call + 1 ≤ done) (within : done ≤ ret) :
    start.ghost (call + 1) <:+ start.ghost done := by
  induction done, later using Nat.le_induction with
  | base => exact List.suffix_rfl
  | succ done later ends =>
    have ends := ends (Nat.le_of_succ_le within)
    have above := answers.above (done + 1) (Nat.lt_succ_of_lt later) within
    obtain ⟨instruction, found, -⟩ :=
      disciplined.current (Nat.lt_trans (Nat.lt_of_succ_le within) before)
    have list := ghost_succ found
    rw [list] at above ⊢
    cases stored : (start.after done).stored? instruction with
    | some value => exact ends.trans (List.suffix_cons value _)
    | none =>
      rw [stored] at above
      by_cases takes : instruction.takes = true
      -- The list is still longer than before the call, so what is taken is not the call's.
      · rw [if_pos takes] at above ⊢
        have longer : (start.ghost (call + 1)).length ≤ (start.ghost done).tail.length := by
          rw [answers.ghost_call]
          exact above
        exact List.suffix_of_suffix_length_le ends (List.tail_suffix _) longer
      · rw [if_neg takes]
        exact ends

/-- **At its return the address behind the call is on top of the list of the call.** -/
theorem Answers.ghost_ret (answers : Answers start call ret)
    (disciplined : Disciplined start count) (before : ret < count) :
    start.ghost ret = ((start.after call).pc + 2) :: start.ghost call := by
  have suffix := answers.suffix disciplined before answers.order (Nat.le_refl ret)
  rw [answers.ghost_call] at suffix
  exact (suffix.eq_of_length answers.level.symm).symm

/-- **A call is resumed right behind it, with its stack pointer.** -/
theorem resumes_of_answers (disciplined : Disciplined start count) (before : ret < count)
    (answers : Answers start call ret) :
    (start.after (ret + 1)).pc = (start.after call).pc + 2 ∧
      (start.after (ret + 1)).stackPointer = (start.after call).stackPointer := by
  have list := answers.ghost_ret disciplined before
  constructor
  · have delivered := (delivers_of_disciplined disciplined before).ret answers.returns
    rw [list] at delivered
    exact (Option.some.inj delivered).symm
  · have after : start.ghost (ret + 1) = start.ghost call := by
      rw [ghost_succ answers.returns, list]
      rfl
    have called := Nat.le_of_lt (Nat.lt_trans answers.order before)
    rw [(laid_after disciplined before).pointer, (laid_after disciplined called).pointer, after]

end Answers

/-- **The stack in memory refines the list.** In every disciplined run the list stands in memory
after each step, each pop and each return delivers its head, and the return that answers a call
goes on behind the call with the stack pointer of the call. -/
theorem stack_refines_ghost (disciplined : Disciplined start count) :
    (∀ done ≤ count, Laid start (start.deepest done) (start.after done) (start.ghost done)) ∧
      (∀ done < count, Delivers start done) ∧
      ∀ call ret, ret < count → Answers start call ret →
        (start.after (ret + 1)).pc = (start.after call).pc + 2 ∧
          (start.after (ret + 1)).stackPointer = (start.after call).stackPointer :=
  ⟨fun _ within => laid_after disciplined within,
    fun _ here => delivers_of_disciplined disciplined here,
    fun _ _ before answers => resumes_of_answers disciplined before answers⟩

end Run

/-! ### A stack that goes round the end of memory -/

/-- A subroutine at 24 pushes a register, pops it into another and returns. The stack starts at
address 1, so the return address is in cell 0 and the pushed value in cell 255. -/
def roundTheEnd : Machine where
  ram := Ram.zero.overlay (List.replicate 16 0 ++
    [0x82, 1, 24, 0x50, 1, 0x01, 0, 0, 0x45, 1, 0x46, 2, 0x11])
  registers := Registers.boot.set .stackPointer 1
  pc := 16
  flags := .clear

theorem disciplined_roundTheEnd : Disciplined roundTheEnd 5 where
  running := by decide +kernel
  keepsPointer := by decide +kernel
  neverEmpty := by decide +kernel
  bounded := by decide +kernel

theorem answers_roundTheEnd : Answers roundTheEnd 1 4 where
  order := by decide
  calls := ⟨1, by decide +kernel⟩
  returns := by decide +kernel
  above := fun done later within => by
    have always : ∀ done < 5, 1 < done →
        (roundTheEnd.ghost 1).length < (roundTheEnd.ghost done).length := by decide +kernel
    exact always done (Nat.lt_succ_of_le within) later
  level := by decide +kernel

/-- The call at the second step is resumed at 21 after the fifth, with the stack pointer at 1. -/
theorem roundTheEnd_resumes :
    Disciplined roundTheEnd 5 ∧ Laid roundTheEnd 2 (roundTheEnd.after 5) [] ∧
      (roundTheEnd.after 3).ram.get 255 = 24 ∧ (roundTheEnd.after 5).pc = 21 ∧
      (roundTheEnd.after 5).stackPointer = 1 := by
  obtain ⟨laid, -, resumes⟩ := stack_refines_ghost disciplined_roundTheEnd
  obtain ⟨pc, pointer⟩ := resumes 1 4 (by decide) answers_roundTheEnd
  refine ⟨disciplined_roundTheEnd, ?_, by decide +kernel, ?_, ?_⟩
  · have last := laid 5 (Nat.le_refl 5)
    rwa [show roundTheEnd.deepest 5 = 2 by decide +kernel,
      show roundTheEnd.ghost 5 = [] by decide +kernel] at last
  · rw [pc]
    decide +kernel
  · rw [pointer]
    decide +kernel

end ByteMachine.Machine
