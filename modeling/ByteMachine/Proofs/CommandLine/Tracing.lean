/-
**Tracing and logging observe without interfering.**

Two sessions with the same program and the same limit, of which one is traced, run alike
(`execute_alike`): the monitor of a session polls the machine before each instruction, and keeps
what it sees to itself.

* `observer_pollAfter`: what the monitor has kept, poll by poll; `observer_of_guarded`: what it
  keeps of a run that is over, one trace more than there were instructions.
* `shows_errors`: the log of such a run, and nothing behind it.
* `tracing_observes`: **the printed values, the report and the exit code never change, and a traced
  session logs the traces of the machine and nothing else besides.**
-/

import ByteMachine.Proofs.CommandLine.Composition

namespace ByteMachine.CommandLine

open Text.Quoted (quote)

/-! ### What the log shows -/

/-- The traces of a machine: before its first instruction, and after each of the executed ones. -/
def traces (machine : Machine) (executed : Nat) : List Trace :=
  (List.range (executed + 1)).map fun done => (machine.after done).trace

/-- The first record of a run. -/
def opening (program : String) (loaded : Loaded) : Record :=
  ⟨.info, "loaded " ++ toString loaded.size ++ " bytes from " ++ quote program⟩

/-- The last records of a run: none at a fault. -/
def closing (executed : Nat) (address : UInt8) (elapsed : String) : Exit → List Record
  | .halted => [⟨.info, "halted at " ++ Text.Hex.literal address ++ " after " ++ elapsed⟩]
  | .stopped =>
    [⟨.warn, "stopped at " ++ Text.Hex.literal address ++ " after " ++ toString executed ++
      " instructions"⟩]
  | .faulted _ => []
  | .exhausted => []

/-- The lines are what a verbosity leaves of a log: all of it, if information is shown. -/
structure Shows (verbosity : Verbosity) (log : List Record) (lines : List String) : Prop where
  filtered : lines = (log.filter fun record => verbosity.shows record.level).map Record.line
  whole : verbosity.shows .info = true → lines = log.map Record.line

/-- **What two sessions log of a run that is over**, of which the second one is traced. -/
structure Logs (program : String) (loaded : Loaded) (executed : Nat)
    (outcome : Outcome (Array Trace) Console) (plain traced : Session) : Prop where
  framed : ∀ verbosity elapsed,
    Shows verbosity
      (opening program loaded ::
        closing executed outcome.computer.machine.pc elapsed outcome.exit)
      (plain.transcript verbosity elapsed).errors
  between : ∀ verbosity elapsed,
    Shows verbosity
      (opening program loaded ::
        (traces loaded.machine executed).map (fun trace => ⟨.info, trace.text⟩) ++
          closing executed outcome.computer.machine.pc elapsed outcome.exit)
      (traced.transcript verbosity elapsed).errors
  last : (traces loaded.machine executed).getLast? = some outcome.computer.machine.trace
  reported : ∀ opcode trace, outcome.exit = .faulted (.badInstruction opcode trace) →
    ∀ verbosity elapsed, (traced.transcript verbosity elapsed).output =
      outcome.computer.device.text ++ ("Bad instruction " ++ Text.Hex.literal opcode ++ "\n" ++
        outcome.computer.machine.trace.text ++ "\n")

variable {request : Request} {loaded : Loaded} {limit : Option Nat} {executed last : Nat}

/-! ### What the monitor keeps -/

/-- **The monitor has kept a trace for each poll so far**, by induction on the polls. -/
theorem observer_pollAfter (request : Request) (start : Computer Console) (count : Nat) :
    ((watch request).pollAfter #[] start count).observer.toList =
      if request.trace then (List.range count).map fun done => (start.machine.after done).trace
      else [] := by
  induction count with
  | zero => cases request.trace <;> rfl
  | succ count ih =>
    -- The next poll finds what this one has kept, and this one was shown the machine's own course.
    have machine := Monitor.machine_pollAfter (watch request) #[] start count
    rw [Monitor.pollAfter_succ, Monitor.following]
    generalize (watch request).pollAfter #[] start count = poll at ih machine
    show (if request.trace then poll.observer.push poll.computer.machine.trace
      else poll.observer).toList = _
    by_cases asked : request.trace = true
    · rw [if_pos asked] at ih ⊢
      rw [if_pos asked, Array.toList_push, ih, machine, List.range_succ, List.map_append]
      rfl
    · rw [if_neg asked] at ih ⊢
      rw [if_neg asked, ih]

/-- The last poll is answered as all others are. -/
theorem observer_of_guarded {start : Computer Console} {outcome : Outcome (Array Trace) Console}
    (guarded : Computer.Guarded (watch request) #[] start last outcome) :
    outcome.observer.toList = if request.trace then traces start.machine last else [] := by
  have answered : outcome.observer =
      ((watch request).pollAfter #[] start (last + 1)).observer := by
    rw [Monitor.pollAfter_succ]
    exact guarded.concludes.observer
  rw [answered, observer_pollAfter]
  rfl

/-! ### Runs that are traced, and runs that are not -/

/-- **Sessions with the same limit run alike**, traced or not. -/
theorem execute_alike (program : String) (limit : Option Nat) (loaded : Loaded) :
    (execute ⟨program, true, limit⟩ loaded).exit = (execute ⟨program, false, limit⟩ loaded).exit ∧
      (execute ⟨program, true, limit⟩ loaded).computer =
        (execute ⟨program, false, limit⟩ loaded).computer := by
  have relays : Device.Relays (id : Console → Console) := fun _ _ => rfl
  have corresponds := Computer.runUntil_of_limits (limits_watch ⟨program, false, limit⟩)
    (limits_watch ⟨program, true, limit⟩) relays #[] #[] ⟨loaded.machine, ({} : Console)⟩
  exact ⟨corresponds.exit, corresponds.computer⟩

theorem exit_execute_ne_exhausted (bounded : ∀ most ∈ request.maxSteps, most ≤ Computer.countLimit)
    (unlimited : request.maxSteps = none → (execute request loaded).exit ≠ .exhausted) :
    (execute request loaded).exit ≠ .exhausted := by
  cases limit : request.maxSteps with
  | none => exact unlimited limit
  | some most =>
    have limits := limits_watch request
    rw [limit] at limits
    exact Computer.exit_ne_exhausted limits (bounded most limit)

theorem exists_guarded_execute (ended : (execute request loaded).exit ≠ .exhausted) :
    ∃ last, Computer.Guarded (watch request) #[] ⟨loaded.machine, {}⟩ last
      (execute request loaded) := by
  rw [execute] at ended ⊢
  exact Computer.exists_guarded ended

/-! ### The log of a run that is over -/

variable {outcome : Outcome (Array Trace) Console} {start : Computer Console}

theorem Verbosity.shows_of_rank_le {verbosity : Verbosity} {level other : Level}
    (more : level.rank ≤ other.rank) (shown : verbosity.shows other = true) :
    verbosity.shows level = true := by
  cases verbosity with
  | off => cases shown
  | upTo most => exact decide_eq_true (Nat.le_trans more (of_decide_eq_true shown))

theorem shows_lines {log : List Record}
    (matters : ∀ record ∈ log, record.level.rank ≤ Level.info.rank) (verbosity : Verbosity) :
    Shows verbosity log (verbosity.lines log) := by
  refine ⟨rfl, fun informed => ?_⟩
  have all : ∀ record ∈ log, verbosity.shows record.level = true :=
    fun record found => Verbosity.shows_of_rank_le (matters record found) informed
  rw [Verbosity.lines, List.filter_eq_self.mpr all]

/-- The log of a run is made of information and warnings. -/
theorem rank_le_of_mem_runLog {elapsed : String} {record : Record}
    (found : record ∈ runLog request loaded outcome elapsed) :
    record.level.rank ≤ Level.info.rank := by
  rw [runLog, List.cons_append] at found
  rcases List.mem_cons.mp found with rfl | found
  · exact Nat.le_refl _
  · rcases List.mem_append.mp found with traced | ending
    · obtain ⟨trace, -, rfl⟩ := List.mem_map.mp traced
      exact Nat.le_refl _
    · cases exit : outcome.exit with
      | halted =>
        rw [exit] at ending
        obtain rfl := List.mem_singleton.mp ending
        exact Nat.le_refl _
      | stopped =>
        rw [exit] at ending
        obtain rfl := List.mem_singleton.mp ending
        exact Nat.le_succ Level.warn.rank
      | faulted fault | exhausted =>
        rw [exit] at ending
        cases ending

/-- The closing tells the count of the limit, and that many instructions were executed. -/
theorem runLog_eq (ends : Computer.EndsAfter request.maxSteps start executed outcome)
    (elapsed : String) :
    runLog request loaded outcome elapsed =
      opening request.program loaded ::
        outcome.observer.toList.map (fun trace => ⟨.info, trace.text⟩) ++
          closing executed outcome.computer.machine.pc elapsed outcome.exit := by
  unfold runLog closing
  cases exit : outcome.exit with
  | stopped =>
    rw [ends.stopped exit]
    rfl
  | halted | faulted fault | exhausted => rfl

theorem exitErrors_of_endsAfter (ends : Computer.EndsAfter limit start executed outcome) :
    exitErrors outcome.exit = [] := by
  cases exit : outcome.exit with
  | halted | stopped => rfl
  | faulted fault =>
    rw [ends.fault exit]
    rfl
  | exhausted => exact absurd exit ends.ne_exhausted

theorem shows_errors (request : Request) (loaded : Loaded) {kept : List Trace}
    (ends : Computer.EndsAfter request.maxSteps start executed outcome)
    (keeps : outcome.observer.toList = kept) (verbosity : Verbosity) (elapsed : String) :
    Shows verbosity
      (opening request.program loaded :: kept.map (fun trace => ⟨.info, trace.text⟩) ++
        closing executed outcome.computer.machine.pc elapsed outcome.exit)
      ((Session.ran request loaded outcome).transcript verbosity elapsed).errors := by
  rw [Session.transcript, exitErrors_of_endsAfter ends, List.append_nil, ← keeps,
    ← runLog_eq ends]
  exact shows_lines (fun _ found => rank_le_of_mem_runLog found) verbosity

/-! ### Sessions that are traced, and sessions that are not -/

section Twins

variable {plain traced : List String} {program : String}
  {files : String → Except AccessError ByteArray}

theorem same_output (asked : Arguments.read plain = .ok (.run ⟨program, false, limit⟩))
    (askedTraced : Arguments.read traced = .ok (.run ⟨program, true, limit⟩))
    (verbosity other : Verbosity) (elapsed later : String) :
    ((Session.run traced files).transcript other later).output =
        ((Session.run plain files).transcript verbosity elapsed).output ∧
      ((Session.run traced files).transcript other later).exitCode =
        ((Session.run plain files).transcript verbosity elapsed).exitCode := by
  rw [run_of_read asked, run_of_read askedTraced]
  cases prepared : prepare (files program) with
  | error failure =>
    rw [ofRequest_of_failed prepared, ofRequest_of_failed prepared]
    exact ⟨rfl, rfl⟩
  | ok loaded =>
    obtain ⟨exit, computer⟩ := execute_alike program limit loaded
    rw [ofRequest_of_prepared prepared, ofRequest_of_prepared prepared]
    simp only [Session.transcript, exit, computer, and_self]

/-- **The log of a run that is over, with traces and without.** -/
theorem logs_of_guarded {observed : Outcome (Array Trace) Console}
    (untraced : Computer.Guarded (watch ⟨program, false, limit⟩) #[] ⟨loaded.machine, {}⟩ last
      outcome)
    (guarded : Computer.Guarded (watch ⟨program, true, limit⟩) #[] ⟨loaded.machine, {}⟩ executed
      observed)
    (exit : observed.exit = outcome.exit) (computer : observed.computer = outcome.computer) :
    Computer.EndsAfter limit ⟨loaded.machine, ({} : Console)⟩ executed outcome ∧
      Logs program loaded executed outcome (.ran ⟨program, false, limit⟩ loaded outcome)
        (.ran ⟨program, true, limit⟩ loaded observed) := by
  -- The count of instructions is the traced run's; the other one ends with the same exit, at the
  -- same machine.
  have ends := Computer.endsAfter_of_guarded (limits_watch ⟨program, true, limit⟩) guarded
  have endsPlain : Computer.EndsAfter limit ⟨loaded.machine, {}⟩ executed outcome :=
    ends.of_eq exit.symm computer.symm
  have arrives : outcome.computer.machine = loaded.machine.after executed := by
    rw [endsPlain.reaches.arrives, Computer.machine_after]
  refine ⟨endsPlain, fun verbosity elapsed => ?_, fun verbosity elapsed => ?_, ?_,
    fun opcode trace faulted verbosity elapsed => ?_⟩
  · exact shows_errors ⟨program, false, limit⟩ loaded endsPlain (observer_of_guarded untraced)
      verbosity elapsed
  · have shows := shows_errors ⟨program, true, limit⟩ loaded ends (observer_of_guarded guarded)
      verbosity elapsed
    rw [exit, computer] at shows
    exact shows
  · rw [traces, List.range_succ, List.map_append, arrives]
    exact List.getLast?_concat
  · show observed.computer.device.text ++ exitReport observed.exit = _
    obtain ⟨rfl, rfl⟩ := Fault.badInstruction.inj (endsPlain.fault faulted)
    rw [exit, computer, faulted]
    rfl

end Twins

/-- **Tracing and logging observe without interfering.** The output and the exit code are those of
the session that is not traced, whatever is shown of the log. A file that is not loaded leaves
nothing to trace. The log of a run that is over gains a trace for each number of executed
instructions, and no other record. -/
theorem tracing_observes {plain traced : List String} {program : String} {limit : Option Nat}
    (asked : Arguments.read plain = .ok (.run ⟨program, false, limit⟩))
    (askedTraced : Arguments.read traced = .ok (.run ⟨program, true, limit⟩))
    (files : String → Except AccessError ByteArray) :
    (∀ verbosity other elapsed later,
        ((Session.run traced files).transcript other later).output =
            ((Session.run plain files).transcript verbosity elapsed).output ∧
          ((Session.run traced files).transcript other later).exitCode =
            ((Session.run plain files).transcript verbosity elapsed).exitCode) ∧
      (∀ failure, prepare (files program) = .error failure → ∀ verbosity other elapsed later,
        (Session.run traced files).transcript other later =
          (Session.run plain files).transcript verbosity elapsed) ∧
      ∀ loaded, prepare (files program) = .ok loaded →
        (limit = none → (execute ⟨program, false, none⟩ loaded).exit ≠ .exhausted) →
          ∃ executed,
            Computer.EndsAfter limit ⟨loaded.machine, {}⟩ executed
                (execute ⟨program, false, limit⟩ loaded) ∧
              Logs program loaded executed (execute ⟨program, false, limit⟩ loaded)
                (Session.run plain files) (Session.run traced files) := by
  refine ⟨same_output asked askedTraced, fun failure failed _ _ _ _ => ?_,
    fun loaded prepared unlimited => ?_⟩
  · rw [run_of_read asked, run_of_read askedTraced, ofRequest_of_failed failed,
      ofRequest_of_failed failed]
    rfl
  · rw [run_of_read asked, run_of_read askedTraced, ofRequest_of_prepared prepared,
      ofRequest_of_prepared prepared]
    have ended := exit_execute_ne_exhausted (Arguments.askable_of_read asked).bounded
      fun none : limit = none => none ▸ unlimited none
    obtain ⟨exit, computer⟩ := execute_alike program limit loaded
    obtain ⟨_, untraced⟩ := exists_guarded_execute ended
    obtain ⟨executed, guarded⟩ := exists_guarded_execute (exit.trans_ne ended)
    exact ⟨executed, logs_of_guarded untraced guarded exit computer⟩

/-- A bad instruction after one that printed, with its trace in both places, and a stop before the
first instruction, of which there is a trace all the same. -/
theorem samples_traced :
    (∃ executed,
      Computer.EndsAfter none ⟨odd, {}⟩ executed (execute ⟨"odd.ls8", false, none⟩ ⟨3, odd⟩) ∧
        Logs "odd.ls8" ⟨3, odd⟩ executed (execute ⟨"odd.ls8", false, none⟩ ⟨3, odd⟩)
          (Session.run ["odd.ls8"] samples) (Session.run ["--trace", "odd.ls8"] samples)) ∧
      ((Session.run ["--trace", "odd.ls8"] samples).transcript (.upTo .debug) "").errors =
        ["[INFO  ls8] loaded 3 bytes from \"odd.ls8\"",
          "[INFO  ls8] TRACE: 00 | 00 | 47 00 FF | 00 00 00 00 00 00 00 F4",
          "[INFO  ls8] TRACE: 02 | 00 | FF 00 00 | 00 00 00 00 00 00 00 F4"] ∧
      ((Session.run ["--trace", "odd.ls8"] samples).transcript (.upTo .warn) "").output =
        ((Session.run ["odd.ls8"] samples).transcript (.upTo .debug) "").output ∧
      (∃ executed,
        Computer.EndsAfter (some 0) ⟨odd, {}⟩ executed
            (execute ⟨"odd.ls8", false, some 0⟩ ⟨3, odd⟩) ∧
          Logs "odd.ls8" ⟨3, odd⟩ executed (execute ⟨"odd.ls8", false, some 0⟩ ⟨3, odd⟩)
            (Session.run ["odd.ls8", "--max-steps=0"] samples)
            (Session.run ["--trace", "odd.ls8", "--max-steps", "0"] samples)) ∧
      ((Session.run ["--trace", "odd.ls8", "--max-steps", "0"] samples).transcript
          (.upTo .info) "").errors =
        ["[INFO  ls8] loaded 3 bytes from \"odd.ls8\"",
          "[INFO  ls8] TRACE: 00 | 00 | 47 00 FF | 00 00 00 00 00 00 00 F4",
          "[WARN  ls8] stopped at 0x00 after 0 instructions"] := by
  have asked : Arguments.read ["odd.ls8"] = .ok (.run ⟨"odd.ls8", false, none⟩) := by
    decide +kernel
  have askedTraced : Arguments.read ["--trace", "odd.ls8"] =
      .ok (.run ⟨"odd.ls8", true, none⟩) := by decide +kernel
  have askedZero : Arguments.read ["odd.ls8", "--max-steps=0"] =
      .ok (.run ⟨"odd.ls8", false, some 0⟩) := by decide +kernel
  have askedBoth : Arguments.read ["--trace", "odd.ls8", "--max-steps", "0"] =
      .ok (.run ⟨"odd.ls8", true, some 0⟩) := by decide +kernel
  have prepared : prepare (samples "odd.ls8") = .ok ⟨3, odd⟩ :=
    prepare_of_loaded fromUTF8?_oddText parse_oddText load_odd
  have ended : (execute ⟨"odd.ls8", false, none⟩ ⟨3, odd⟩).exit ≠ .exhausted := by decide +kernel
  obtain ⟨same, -, unlimited⟩ := tracing_observes asked askedTraced samples
  obtain ⟨-, -, limited⟩ := tracing_observes askedZero askedBoth samples
  refine ⟨unlimited ⟨3, odd⟩ prepared fun _ => ended, ?_,
    (same (.upTo .debug) (.upTo .warn) "" "").1, limited ⟨3, odd⟩ prepared nofun, ?_⟩
  · decide +kernel
  · decide +kernel

end ByteMachine.CommandLine
