/-
**A limit on the instructions only cuts a session short.**

`CutsShort` compares a session under a limit with one of the same program under a larger limit or
none, traced or not. Both take the steps of one computer (`execute_eq`), and all that a limit
decides is how many of them.

* `stopLine_mem_errors_iff`: **a session warns of a stop if its run was stopped, with the address
  and the count of that stop.** The text of the warning determines both (`stopText_injective`), and
  no other record has its line (`Record.line_injective`).
* `output_begins`, `same_of_not_stopped`: the limit takes nothing back, and it changes nothing
  unless it stops the run.
* `limit_cuts_short`: **the two together, where the limit stops a program that ends by itself, and
  that a stop is reported truthfully.**
-/

import ByteMachine.Proofs.CommandLine.Tracing
import ByteMachine.Proofs.Computer.Beginnings
import ByteMachine.Proofs.Text.Numbers

namespace ByteMachine.CommandLine

open Computer (Reaches atMost mostSteps exitUnder countLimit)
open Text (append_inj_of_length decimal_injective)

/-! ### What a session shows of a limit -/

/-- The text of a warning that a run was stopped. -/
def stopText (address : UInt8) (count : Nat) : String :=
  "stopped at " ++ Text.Hex.literal address ++ " after " ++ toString count ++ " instructions"

/-- The line of that warning in the log. -/
def stopLine (address : UInt8) (count : Nat) : String := "[WARN  ls8] " ++ stopText address count

def Transcript.Warns (transcript : Transcript) : Prop :=
  ∃ address count, stopLine address count ∈ transcript.errors

/-- The address where the run of a session ended. -/
def Session.address? : Session → Option UInt8
  | .ran _ _ outcome => some outcome.computer.machine.pc
  | _ => none

/-- **The session has executed so many instructions and come to an address.** Its monitor was polled
before each of them and once more. -/
def Session.Executed (session : Session) (machine : Machine) (count : Nat) (address : UInt8) :
    Prop :=
  ∃ request loaded outcome, session = .ran request loaded outcome ∧
    Computer.Guarded (watch request) #[] ⟨machine, {}⟩ count outcome ∧
    Reaches ⟨machine, {}⟩ count outcome.computer ∧
    outcome.computer.machine.pc = address

/-- **A session under a limit, and one of the same machine under a larger limit or none.** -/
structure CutsShort (machine : Machine) (most : Nat) (shorter longer : Session) : Prop where
  begins : ∀ verbosity elapsed other later, ∃ rest,
    (longer.transcript other later).output =
      (shorter.transcript verbosity elapsed).output ++ rest
  same : ∀ verbosity elapsed, verbosity.shows .warn = true →
    ¬ (shorter.transcript verbosity elapsed).Warns →
      longer.address? = shorter.address? ∧
        ∀ other later,
          (longer.transcript other later).output =
              (shorter.transcript verbosity elapsed).output ∧
            (longer.transcript other later).exitCode =
              (shorter.transcript verbosity elapsed).exitCode
  stops : ∀ executed, machine.EndsBy executed → ∀ verbosity elapsed,
    verbosity.shows .warn = true →
      ((shorter.transcript verbosity elapsed).Warns ↔ most ≤ executed)
  /-- With a limit of one more the program ends by itself. -/
  ends : ∀ executed, machine.EndsBy executed → executed < most →
    shorter.address? = some (machine.after executed).pc ∧
      ∀ verbosity elapsed, (shorter.transcript verbosity elapsed).exitCode =
        if (machine.after executed).status = .halted then 0 else 1
  warns : ∀ verbosity elapsed address count,
    stopLine address count ∈ (shorter.transcript verbosity elapsed).errors →
      count = most ∧ shorter.Executed machine count address

/-! ### The warning of a stop -/

section Warning

variable {address other : UInt8} {count number : Nat}

theorem Level.length_column (level : Level) : level.column.length = 5 := by
  cases level <;> decide

theorem Level.column_injective : Function.Injective Level.column := by
  intro first second
  cases first <;> cases second <;> decide

theorem Record.line_eq (record : Record) :
    record.line = "[" ++ (record.level.column ++ (" ls8] " ++ record.text)) := by
  simp only [Record.line, String.append_assoc, toString]

/-- All levels take five columns, so a line is that of one record only. -/
theorem Record.line_injective : Function.Injective Record.line := by
  rintro ⟨level, text⟩ ⟨otherLevel, otherText⟩ same
  have columns : level.column.length = otherLevel.column.length :=
    level.length_column.trans otherLevel.length_column.symm
  rw [line_eq, line_eq] at same
  obtain ⟨-, inside⟩ := append_inj_of_length same rfl
  obtain ⟨column, behind⟩ := append_inj_of_length inside columns
  obtain ⟨-, texts⟩ := append_inj_of_length behind rfl
  rw [Record.mk.injEq]
  exact ⟨Level.column_injective column, texts⟩

theorem line_warn (text : String) : Record.line ⟨.warn, text⟩ = "[WARN  ls8] " ++ text := by
  have front : "[" ++ "WARN " ++ " ls8] " = "[WARN  ls8] " := by decide
  exact congrArg (fun front => front ++ text) front

/-- An address takes four columns, so the count begins at the same place in every warning. -/
theorem stopText_injective (same : stopText address count = stopText other number) :
    address = other ∧ count = number := by
  have columns : (Text.Hex.literal address).length = (Text.Hex.literal other).length :=
    (Text.Hex.length_literal address).trans (Text.Hex.length_literal other).symm
  simp only [stopText, String.append_assoc] at same
  obtain ⟨-, inside⟩ := append_inj_of_length same rfl
  obtain ⟨literal, behind⟩ := append_inj_of_length inside columns
  obtain ⟨-, digits⟩ := append_inj_of_length behind rfl
  refine ⟨Text.Hex.literal_injective literal, decimal_injective ?_⟩
  exact (String.append_left_inj _).mp digits

/-- Only a stop closes a log with a warning. -/
theorem mem_closing_iff (executed : Nat) (elapsed : String) (exit : Exit) :
    ⟨.warn, stopText address count⟩ ∈ closing executed other elapsed exit ↔
      exit = .stopped ∧ address = other ∧ count = executed := by
  cases exit with
  | halted => simp [closing]
  | stopped =>
    rw [closing, List.mem_singleton]
    constructor
    · intro same
      exact ⟨rfl, stopText_injective (Record.mk.inj same).2⟩
    · rintro ⟨-, rfl, rfl⟩
      rfl
  | faulted fault | exhausted => simp [closing]

/-- **A session warns of a stop if its run was stopped**, with the address and the count of that
stop. -/
theorem stopLine_mem_errors_iff {request : Request} {loaded : Loaded} {start : Computer Console}
    {outcome : Outcome (Array Trace) Console} {executed : Nat}
    (ends : Computer.EndsAfter request.maxSteps start executed outcome) (verbosity : Verbosity)
    (elapsed : String) :
    stopLine address count ∈
        ((Session.ran request loaded outcome).transcript verbosity elapsed).errors ↔
      verbosity.shows .warn = true ∧ outcome.exit = .stopped ∧
        address = outcome.computer.machine.pc ∧ count = executed := by
  rw [(shows_errors request loaded ends rfl verbosity elapsed).filtered, List.mem_map,
    ← mem_closing_iff executed elapsed]
  constructor
  · rintro ⟨record, found, line⟩
    obtain rfl : record = ⟨.warn, stopText address count⟩ :=
      Record.line_injective (line.trans (line_warn _).symm)
    obtain ⟨logged, shown⟩ := List.mem_filter.mp found
    refine ⟨shown, ?_⟩
    simpa [opening] using logged
  · rintro ⟨shown, closes⟩
    refine ⟨⟨.warn, stopText address count⟩, List.mem_filter.mpr ⟨?_, shown⟩, line_warn _⟩
    exact List.mem_append_right _ closes

end Warning

/-! ### Runs of one program -/

/-- **Runs of one program take the same steps**, as many as their limits let them. -/
theorem execute_eq {limit : Option Nat} (bounded : ∀ most ∈ limit, most ≤ countLimit)
    (path : String) (trace : Bool) (loaded : Loaded) :
    (execute ⟨path, trace, limit⟩ loaded).exit =
        exitUnder limit (atMost (mostSteps limit) (⟨loaded.machine, {}⟩ : Computer Console)).1 ∧
      (execute ⟨path, trace, limit⟩ loaded).computer =
        Computer.after ⟨loaded.machine, {}⟩ (mostSteps limit) := by
  have relays : Device.Relays (id : Console → Console) := fun _ _ => rfl
  have corresponds := Computer.runUntil_of_limits (Monitor.limits_within limit)
    (limits_watch ⟨path, trace, limit⟩) relays () #[] ⟨loaded.machine, ({} : Console)⟩
  rw [Computer.runUntil_within bounded] at corresponds
  exact ⟨corresponds.exit, corresponds.computer⟩

theorem execute_limited {most : Nat} (bound : most ≤ countLimit) (path : String) (trace : Bool)
    (loaded : Loaded) :
    (execute ⟨path, trace, some most⟩ loaded).exit =
        (atMost most (⟨loaded.machine, {}⟩ : Computer Console)).1 ∧
      (execute ⟨path, trace, some most⟩ loaded).computer =
        Computer.after ⟨loaded.machine, {}⟩ most := by
  refine execute_eq (fun other same => ?_) path trace loaded
  obtain rfl := Option.mem_some.mp same
  exact bound

/-- Its halt, or its bad instruction, ends a run that is not stopped before it. -/
theorem ends_of_endsBy {loaded : Loaded} {most executed : Nat} (bound : most ≤ countLimit)
    (path : String) (trace : Bool) (ends : loaded.machine.EndsBy executed)
    (enough : executed < most) :
    (execute ⟨path, trace, some most⟩ loaded).computer.machine = loaded.machine.after executed ∧
      exitCode (execute ⟨path, trace, some most⟩ loaded).exit =
        if (loaded.machine.after executed).status = .halted then 0 else 1 := by
  obtain ⟨exit, computer⟩ := execute_limited bound path trace loaded
  have goes : (atMost most (⟨loaded.machine, {}⟩ : Computer Console)).1 ≠ .stopped :=
    fun stopped => Nat.not_le_of_lt enough ((Computer.stopped_iff_of_endsBy ends).mp stopped)
  have final : Computer.after (⟨loaded.machine, {}⟩ : Computer Console) most =
      Computer.after ⟨loaded.machine, {}⟩ executed :=
    Computer.after_of_endsBy ends (Nat.le_of_lt enough)
  have reported := Computer.exit_of_not_stopped most _ goes
  rw [final, Computer.status_eq, Computer.machine_after] at reported
  rw [exit, computer, final]
  refine ⟨Computer.machine_after _ executed, ?_⟩
  cases status : (loaded.machine.after executed).status with
  | running =>
    rw [status] at reported
    cases reported
  | halted | faulted fault =>
    rw [status] at reported
    rw [← Option.some.inj reported]
    rfl

section Longer

variable {most : Nat} {more : Option Nat} (bound : most ≤ countLimit)
  (bounded : ∀ other ∈ more, other ≤ countLimit) (within : ∀ other ∈ more, most ≤ other)
  (path : String) (trace traceMore : Bool) (loaded : Loaded)
include bound bounded within

/-- **A limit that does not stop a run changes nothing.** -/
theorem same_of_not_stopped (goes : (execute ⟨path, trace, some most⟩ loaded).exit ≠ .stopped) :
    (execute ⟨path, traceMore, more⟩ loaded).exit =
        (execute ⟨path, trace, some most⟩ loaded).exit ∧
      (execute ⟨path, traceMore, more⟩ loaded).computer =
        (execute ⟨path, trace, some most⟩ loaded).computer := by
  obtain ⟨exit, computer⟩ := execute_limited bound path trace loaded
  obtain ⟨exitMore, computerMore⟩ := execute_eq bounded path traceMore loaded
  rw [exit] at goes ⊢
  have steps := Computer.atMost_of_le (Computer.le_mostSteps bound within) goes
  rw [exitMore, computerMore, computer, ← Computer.computer_atMost, ← Computer.computer_atMost,
    steps, Computer.exitUnder_of_ne goes]
  exact ⟨rfl, rfl⟩

/-- **A limit takes nothing back of what is printed.** -/
theorem output_begins :
    ∃ rest, (execute ⟨path, traceMore, more⟩ loaded).computer.device.text ++
        exitReport (execute ⟨path, traceMore, more⟩ loaded).exit =
      (execute ⟨path, trace, some most⟩ loaded).computer.device.text ++
        exitReport (execute ⟨path, trace, some most⟩ loaded).exit ++ rest := by
  by_cases stopped : (execute ⟨path, trace, some most⟩ loaded).exit = .stopped
  · -- A stop is not reported, so more values may follow.
    obtain ⟨-, computer⟩ := execute_limited bound path trace loaded
    obtain ⟨-, computerMore⟩ := execute_eq bounded path traceMore loaded
    obtain ⟨rest, shown⟩ := Computer.text_after_of_le (⟨loaded.machine, {}⟩ : Computer Console)
      (Computer.le_mostSteps bound within)
    have silent : exitReport .stopped = "" := rfl
    refine ⟨rest ++ exitReport (execute ⟨path, traceMore, more⟩ loaded).exit, ?_⟩
    rw [stopped, silent, computer, computerMore, shown, String.append_empty, String.append_assoc]
  · obtain ⟨exit, computer⟩ :=
      same_of_not_stopped bound bounded within path trace traceMore loaded stopped
    refine ⟨"", ?_⟩
    rw [exit, computer, String.append_empty]

end Longer

/-! ### What a session warns of -/

theorem exists_endsAfter_limited {most : Nat} (bound : most ≤ countLimit) (path : String)
    (trace : Bool) (loaded : Loaded) :
    ∃ executed,
      Computer.Guarded (watch ⟨path, trace, some most⟩) #[] ⟨loaded.machine, {}⟩ executed
          (execute ⟨path, trace, some most⟩ loaded) ∧
        Computer.EndsAfter (some most) ⟨loaded.machine, {}⟩ executed
          (execute ⟨path, trace, some most⟩ loaded) := by
  have limits := limits_watch ⟨path, trace, some most⟩
  obtain ⟨executed, guarded⟩ :=
    exists_guarded_execute (Computer.exit_ne_exhausted limits bound)
  exact ⟨executed, guarded, Computer.endsAfter_of_guarded limits guarded⟩

theorem warns_iff {most : Nat} {verbosity : Verbosity} (bound : most ≤ countLimit) (path : String)
    (trace : Bool) (loaded : Loaded) (shown : verbosity.shows .warn = true) (elapsed : String) :
    ((Session.ran ⟨path, trace, some most⟩ loaded
        (execute ⟨path, trace, some most⟩ loaded)).transcript verbosity elapsed).Warns ↔
      (execute ⟨path, trace, some most⟩ loaded).exit = .stopped := by
  obtain ⟨executed, -, ends⟩ := exists_endsAfter_limited bound path trace loaded
  constructor
  · rintro ⟨address, count, found⟩
    exact ((stopLine_mem_errors_iff ends verbosity elapsed).mp found).2.1
  · intro stopped
    exact ⟨_, _, (stopLine_mem_errors_iff ends verbosity elapsed).mpr ⟨shown, stopped, rfl, rfl⟩⟩

/-! ### Sessions of one program -/

theorem cutsShort_ran {most : Nat} {more : Option Nat} (bound : most ≤ countLimit)
    (bounded : ∀ other ∈ more, other ≤ countLimit) (within : ∀ other ∈ more, most ≤ other)
    (path : String) (trace traceMore : Bool) (loaded : Loaded) :
    CutsShort loaded.machine most
      (.ran ⟨path, trace, some most⟩ loaded (execute ⟨path, trace, some most⟩ loaded))
      (.ran ⟨path, traceMore, more⟩ loaded (execute ⟨path, traceMore, more⟩ loaded)) where
  begins := fun _ _ _ _ => output_begins bound bounded within path trace traceMore loaded
  same := fun verbosity elapsed shown quiet => by
    rw [warns_iff bound path trace loaded shown] at quiet
    obtain ⟨exit, computer⟩ :=
      same_of_not_stopped bound bounded within path trace traceMore loaded quiet
    simp only [Session.address?, Session.transcript, exit, computer, and_self, implies_true]
  stops := fun executed ends verbosity elapsed shown => by
    rw [warns_iff bound path trace loaded shown, (execute_limited bound path trace loaded).1]
    exact Computer.stopped_iff_of_endsBy ends
  ends := fun executed ends enough => by
    obtain ⟨machine, code⟩ := ends_of_endsBy bound path trace ends enough
    exact ⟨congrArg (fun final : Machine => some final.pc) machine, fun _ _ => code⟩
  warns := fun verbosity elapsed address count found => by
    obtain ⟨executed, guarded, ends⟩ := exists_endsAfter_limited bound path trace loaded
    obtain ⟨-, stopped, rfl, rfl⟩ := (stopLine_mem_errors_iff ends verbosity elapsed).mp found
    have full : most = count := Option.some.inj (ends.stopped stopped)
    exact ⟨full.symm, _, _, _, rfl, guarded, ends.reaches, rfl⟩

/-- **A limit only cuts a session short.** For a file that holds a program, what is printed under
the limit begins what is printed under a larger limit or none, and if there is no warning of a stop
the two sessions agree. The warning comes exactly if the program does not end by itself before it
has executed as many instructions, and it tells how many there were and where they led. -/
theorem limit_cuts_short {shorter longer : List String} {path : String} {trace traceMore : Bool}
    {most : Nat} {more : Option Nat}
    (asked : Arguments.read shorter = .ok (.run ⟨path, trace, some most⟩))
    (askedMore : Arguments.read longer = .ok (.run ⟨path, traceMore, more⟩))
    (within : ∀ other ∈ more, most ≤ other)
    {files : String → Except AccessError ByteArray} {bytes : ByteArray} {text : String}
    {program : List UInt8} (found : files path = .ok bytes)
    (decoded : String.fromUTF8? bytes = some text) (parsed : Source.parse text = .ok program)
    (fits : program.length ≤ 256) :
    ∃ machine, Machine.boot.load program = .ok machine ∧
      CutsShort machine most (Session.run shorter files) (Session.run longer files) := by
  obtain ⟨machine, loads⟩ : ∃ machine, Machine.boot.load program = .ok machine :=
    ⟨_, Machine.load_of_le fits⟩
  have prepared : prepare (files path) = .ok ⟨program.length, machine⟩ := by
    rw [found]
    exact prepare_of_loaded decoded parsed loads
  refine ⟨machine, loads, ?_⟩
  rw [run_of_read asked, run_of_read askedMore, ofRequest_of_prepared prepared,
    ofRequest_of_prepared prepared]
  have bound : most ≤ countLimit := (Arguments.askable_of_read asked).bounded most rfl
  exact cutsShort_ran bound (Arguments.askable_of_read askedMore).bounded within path trace
    traceMore ⟨program.length, machine⟩

/-- A limit of the one instruction before a byte that is no opcode stops the program, and a limit of
two does not. -/
theorem odd_cut_short :
    CutsShort odd 1 (Session.run ["odd.ls8", "--max-steps=1"] samples)
        (Session.run ["--trace", "odd.ls8"] samples) ∧
      ((Session.run ["odd.ls8", "--max-steps=1"] samples).transcript (.upTo .warn) "").errors =
        [stopLine 2 1] ∧
      stopLine 2 1 = "[WARN  ls8] stopped at 0x02 after 1 instructions" ∧
      (∃ rest, ((Session.run ["--trace", "odd.ls8"] samples).transcript .off "").output =
        "0\n" ++ rest) ∧
      (Session.run ["odd.ls8", "--max-steps", "2"] samples).address? = some 2 ∧
      ((Session.run ["odd.ls8", "--max-steps=3"] samples).transcript .off "").output =
        ((Session.run ["odd.ls8", "--max-steps", "2"] samples).transcript (.upTo .warn) "").output
      := by
  have askedOne : Arguments.read ["odd.ls8", "--max-steps=1"] =
      .ok (.run ⟨"odd.ls8", false, some 1⟩) := by decide +kernel
  have askedAll : Arguments.read ["--trace", "odd.ls8"] =
      .ok (.run ⟨"odd.ls8", true, none⟩) := by decide +kernel
  have askedTwo : Arguments.read ["odd.ls8", "--max-steps", "2"] =
      .ok (.run ⟨"odd.ls8", false, some 2⟩) := by decide +kernel
  have askedThree : Arguments.read ["odd.ls8", "--max-steps=3"] =
      .ok (.run ⟨"odd.ls8", false, some 3⟩) := by decide +kernel
  obtain ⟨machine, loads, one⟩ := limit_cuts_short askedOne askedAll nofun
    (show samples "odd.ls8" = _ from rfl) fromUTF8?_oddText parse_oddText (by decide)
  obtain rfl := Except.ok.inj (load_odd.symm.trans loads)
  obtain ⟨machine, loads, two⟩ := limit_cuts_short askedTwo askedThree (by simp)
    (show samples "odd.ls8" = _ from rfl) fromUTF8?_oddText parse_oddText (by decide)
  obtain rfl := Except.ok.inj (load_odd.symm.trans loads)
  have ends : odd.EndsBy 1 := ⟨by decide +kernel, by decide +kernel⟩
  have shown : (Verbosity.upTo .warn).shows .warn = true := rfl
  have quiet : ¬ ((Session.run ["odd.ls8", "--max-steps", "2"] samples).transcript
      (.upTo .warn) "").Warns := by
    rw [two.stops 1 ends _ "" shown]
    decide
  have printed : ((Session.run ["odd.ls8", "--max-steps=1"] samples).transcript .off "").output =
      "0\n" := by decide +kernel
  obtain ⟨rest, begins⟩ := one.begins .off "" .off ""
  rw [printed] at begins
  have address : (odd.after 1).pc = 2 := by decide +kernel
  refine ⟨one, by decide +kernel, by decide +kernel, ⟨rest, begins⟩, ?_, ?_⟩
  · rw [← address]
    exact (two.ends 1 ends (by decide)).1
  · exact ((two.same _ "" shown quiet).2 .off "").1

end ByteMachine.CommandLine
