/-
**A session is the library put together.**

`Composes` says what a session comes to for a file. A program that cannot be read, parsed or loaded
is refused: one line or four about the failure, nothing on the output, and no run. Otherwise the
session shows what the library's own run does (`libraryRun`): its printed values, a line each, and
then a report if it ends at a bad instruction.

* `limits_watch`: the monitor of a session applies the limit and nothing else.
* `performs_of_prepared`: the console holds what the array of the library's run holds, and the exit
  is the same.
* `session_composes`: **every request can be asked for, and whatever is asked composes.**
-/

import ByteMachine.CommandLine.Session
import ByteMachine.Proofs.CommandLine.Requests
import ByteMachine.Proofs.Computer.Limits
import ByteMachine.Proofs.Source.Grammar

namespace ByteMachine.CommandLine

universe u v

open Text.Quoted (quote)

/-! ### What a session comes to -/

/-- The run of a machine by the library alone, with an array for what is printed. -/
def libraryRun (limit : Option Nat) (machine : Machine) : Outcome Unit (Array UInt8) :=
  Computer.runUntil (.within limit) () (Computer.collecting machine)

/-- The session ends before any instruction is executed, and says why. -/
structure Refuses (session : Session) (reasons : List String) : Prop where
  unstarted : ∃ request failure, session = .failed request failure
  transcript : ∀ verbosity elapsed, session.transcript verbosity elapsed = ⟨1, "", reasons⟩

/-- The exit code for an exit, and what is written about it behind the printed values. -/
inductive Reported : Exit → Nat → String → Prop where
  | halted : Reported .halted 0 ""
  | stopped : Reported .stopped 0 ""
  | badInstruction (opcode : UInt8) (trace : Trace) :
      Reported (.faulted (.badInstruction opcode trace)) 1
        ("Bad instruction " ++ Text.Hex.literal opcode ++ "\n" ++ trace.text ++ "\n")

/-- The session shows a run: the printed values, each as a line, and the report on the exit. -/
def Performs (session : Session) (library : Outcome Unit (Array UInt8)) : Prop :=
  ∃ code report, Reported library.exit code report ∧
    ∀ verbosity elapsed,
      (session.transcript verbosity elapsed).exitCode = code ∧
        (session.transcript verbosity elapsed).output =
          String.join (library.computer.device.toList.map fun value =>
            toString value.toNat ++ "\n") ++ report

/-- **What the session of a request comes to**, by what its file holds. -/
structure Composes (request : Request) (file : Except AccessError ByteArray) (session : Session) :
    Prop where
  inaccessible : ∀ error, file = .error error →
    Refuses session ["Error: failed to read " ++ quote request.program, "", "Caused by:",
      "    " ++ error.message]
  notText : ∀ bytes, file = .ok bytes → String.fromUTF8? bytes = none →
    Refuses session ["Error: failed to read " ++ quote request.program, "", "Caused by:",
      "    stream did not contain valid UTF-8"]
  unparsable : ∀ bytes text error, file = .ok bytes → String.fromUTF8? bytes = some text →
    Source.parse text = .error error →
      Refuses session ["Error: failed to parse " ++ quote request.program, "", "Caused by:",
        "    " ++ error.message]
  tooLarge : ∀ bytes text program, file = .ok bytes → String.fromUTF8? bytes = some text →
    Source.parse text = .ok program → 256 < program.length →
      Refuses session ["Error: program is " ++
        toString ((Source.entries text).countP (· ≠ [])) ++ " bytes, but RAM only holds 256"]
  runs : ∀ bytes text program, file = .ok bytes → String.fromUTF8? bytes = some text →
    Source.parse text = .ok program → program.length ≤ 256 →
      ∃ machine, Machine.boot.load program = .ok machine ∧
        ((libraryRun request.maxSteps machine).exit ≠ .exhausted →
          Performs session (libraryRun request.maxSteps machine))
  limited : ∀ machine, request.maxSteps.isSome →
    (libraryRun request.maxSteps machine).exit ≠ .exhausted

variable {request : Request} {session : Session} {file : Except AccessError ByteArray}

/-! ### From a file to a loaded machine -/

section Prepare

variable {bytes : ByteArray} {text : String} {program : List UInt8} {machine : Machine}

theorem prepare_of_inaccessible (error : AccessError) :
    prepare (.error error) = .error (.unreadable (.inaccessible error)) := rfl

theorem prepare_of_notText (undecoded : String.fromUTF8? bytes = none) :
    prepare (.ok bytes) = .error (.unreadable .notText) := by
  simp only [prepare, readText, undecoded]

theorem prepare_of_unparsable {error : Source.ParseError}
    (decoded : String.fromUTF8? bytes = some text) (violated : Source.parse text = .error error) :
    prepare (.ok bytes) = .error (.unparsable error) := by
  simp only [prepare, readText, decoded, violated]

theorem prepare_of_unloadable {fault : Fault} (decoded : String.fromUTF8? bytes = some text)
    (parsed : Source.parse text = .ok program)
    (refused : Machine.boot.load program = .error fault) :
    prepare (.ok bytes) = .error (.unloadable fault) := by
  simp only [prepare, readText, decoded, parsed, refused]

theorem prepare_of_loaded (decoded : String.fromUTF8? bytes = some text)
    (parsed : Source.parse text = .ok program) (loaded : Machine.boot.load program = .ok machine) :
    prepare (.ok bytes) = .ok ⟨program.length, machine⟩ := by
  simp only [prepare, readText, decoded, parsed, loaded]

end Prepare

/-! ### Sessions of requests -/

theorem run_of_read {arguments : List String}
    (asked : Arguments.read arguments = .ok (.run request))
    (files : String → Except AccessError ByteArray) :
    Session.run arguments files = .ofRequest request (files request.program) := by
  rw [Session.run, asked]

theorem ofRequest_of_failed {failure : StartFailure} (failed : prepare file = .error failure) :
    Session.ofRequest request file = .failed request failure := by
  rw [Session.ofRequest, failed]

theorem ofRequest_of_prepared {loaded : Loaded} (prepared : prepare file = .ok loaded) :
    Session.ofRequest request file = .ran request loaded (execute request loaded) := by
  rw [Session.ofRequest, prepared]

/-! ### Sessions that are refused -/

theorem refuses_of_failed {failure : StartFailure} (failed : prepare file = .error failure) :
    Refuses (.ofRequest request file) (failure.lines request.program) := by
  rw [ofRequest_of_failed failed]
  exact ⟨⟨request, failure, rfl⟩, fun _ _ => rfl⟩

/-! ### Sessions that run -/

/-- The monitor of a session applies the limit; the traces that it keeps are its own affair. -/
theorem limits_watch (request : Request) : (watch request).Limits request.maxSteps :=
  ⟨fun _ _ _ _ => rfl, fun _ _ _ _ => rfl⟩

/-- A console with a line for each value. -/
def written (values : Array UInt8) : Console := ⟨String.join (values.toList.map Console.line)⟩

theorem written_relays : Device.Relays written := by
  intro values value
  have behind := Computer.console_relays {} values value
  simp only [String.empty_append] at behind
  exact behind

/-- **The console of a session holds what the array of the library's run holds.** -/
theorem execute_corresponds (request : Request) (loaded : Loaded) :
    (libraryRun request.maxSteps loaded.machine).Corresponds written (execute request loaded) :=
  Computer.runUntil_of_limits (Monitor.limits_within request.maxSteps) (limits_watch request)
    written_relays () #[] (Computer.collecting loaded.machine)

/-- The exit of a run that is over has its code and its report. -/
theorem reported_of_endsAfter {σ : Type v} {δ : Type u} [Device δ] {limit : Option Nat}
    {start : Computer δ} {executed : Nat} {outcome : Outcome σ δ}
    (ends : Computer.EndsAfter limit start executed outcome) :
    Reported outcome.exit (exitCode outcome.exit) (exitReport outcome.exit) := by
  cases exit : outcome.exit with
  | halted => exact .halted
  | stopped => exact .stopped
  | faulted fault =>
    rw [ends.fault exit]
    exact .badInstruction _ _
  | exhausted => exact absurd exit ends.ne_exhausted

theorem performs_of_prepared {loaded : Loaded} (prepared : prepare file = .ok loaded)
    (ended : (libraryRun request.maxSteps loaded.machine).exit ≠ .exhausted) :
    Performs (.ofRequest request file) (libraryRun request.maxSteps loaded.machine) := by
  -- The exit is known from the library's run, whose monitor keeps nothing.
  obtain ⟨exit, computer⟩ := execute_corresponds request loaded
  obtain ⟨last, guarded⟩ := Computer.exists_guarded ended
  have ends := Computer.endsAfter_of_guarded (Monitor.limits_within request.maxSteps) guarded
  refine ⟨_, _, reported_of_endsAfter ends, fun verbosity elapsed => ?_⟩
  rw [ofRequest_of_prepared prepared, ← exit]
  refine ⟨rfl, ?_⟩
  show (execute request loaded).computer.device.text ++ _ = _
  rw [computer]
  rfl

/-! ### All sessions of requests -/

theorem composes_ofRequest (askable : request.Askable) (file : Except AccessError ByteArray) :
    Composes request file (.ofRequest request file) where
  inaccessible := by
    rintro error rfl
    exact refuses_of_failed (prepare_of_inaccessible error)
  notText := by
    rintro bytes rfl undecoded
    exact refuses_of_failed (prepare_of_notText undecoded)
  unparsable := by
    rintro bytes text error rfl decoded violated
    exact refuses_of_failed (prepare_of_unparsable decoded violated)
  tooLarge := by
    rintro bytes text program rfl decoded parsed long
    rw [← Source.length_of_parse_eq_ok parsed]
    exact refuses_of_failed (prepare_of_unloadable decoded parsed (Machine.load_of_lt long))
  runs := by
    rintro bytes text program rfl decoded parsed fits
    obtain ⟨machine, loaded⟩ : ∃ machine, Machine.boot.load program = .ok machine :=
      ⟨_, Machine.load_of_le fits⟩
    exact ⟨machine, loaded, performs_of_prepared (prepare_of_loaded decoded parsed loaded)⟩
  limited := by
    intro machine limited
    obtain ⟨most, some⟩ := Option.isSome_iff_exists.mp limited
    rw [some]
    exact Computer.exit_ne_exhausted (Monitor.limits_within _) (askable.bounded most some)

/-- **A session is the library put together.** Every request that names a program and whose limit is
a count can be asked for, and whatever is asked for comes to what the library makes of the file. -/
theorem session_composes (files : String → Except AccessError ByteArray) :
    (∀ request : Request, request.program ≠ "" →
        (∀ most ∈ request.maxSteps, most ≤ UInt64.size - 1) →
          Arguments.read request.arguments = .ok (.run request)) ∧
      ∀ arguments request, Arguments.read arguments = .ok (.run request) →
        Composes request (files request.program) (Session.run arguments files) := by
  refine ⟨fun request named bounded => Arguments.read_arguments ⟨named, bounded⟩,
    fun arguments request asked => ?_⟩
  rw [run_of_read asked]
  exact composes_ofRequest (Arguments.askable_of_read asked) (files request.program)

/-- A program that prints a value and comes to a byte that is no opcode. -/
def oddText : String := "1000111\n0\n11111111 # no opcode\n"

/-- The machine with that program. -/
def odd : Machine := { Machine.boot with ram := Machine.boot.ram.overlay [0x47, 0, 0xff] }

/-- Two files, of which one holds no program. -/
def samples : String → Except AccessError ByteArray
  | "odd.ls8" => .ok oddText.toUTF8
  | "prose.ls8" => .ok "1\nHello\n".toUTF8
  | _ => .error .missing

theorem fromUTF8?_oddText : String.fromUTF8? oddText.toUTF8 = some oddText := by decide +kernel

theorem parse_oddText : Source.parse oddText = .ok [0x47, 0, 0xff] := by decide +kernel

theorem load_odd : Machine.boot.load [0x47, 0, 0xff] = .ok odd := Machine.load_of_le (by decide)

/-- What was printed comes before the report; a file that is no program prints nothing. -/
theorem samples_compose :
    Arguments.read ["--max-steps", "3", "--", "odd.ls8"] = .ok (.run ⟨"odd.ls8", false, some 3⟩) ∧
      Performs (Session.run ["odd.ls8", "--max-steps=3"] samples) (libraryRun (some 3) odd) ∧
      (libraryRun (some 3) odd).computer.device = #[0] ∧
      ((Session.run ["odd.ls8", "--max-steps=3"] samples).transcript .off "").output =
        "0\nBad instruction 0xff\nTRACE: 02 | 00 | FF 00 00 | 00 00 00 00 00 00 00 F4\n" ∧
      Refuses (Session.run ["prose.ls8"] samples)
        ["Error: failed to parse \"prose.ls8\"", "", "Caused by:",
          "    line 2: \"Hello\" is not a binary byte"] ∧
      Refuses (Session.run ["--trace", "gone.ls8"] samples)
        ["Error: failed to read \"gone.ls8\"", "", "Caused by:",
          "    No such file or directory (os error 2)"] := by
  obtain ⟨askable, composes⟩ := session_composes samples
  have program := composes ["odd.ls8", "--max-steps=3"] ⟨"odd.ls8", false, some 3⟩
    (by decide +kernel)
  have prose := composes ["prose.ls8"] ⟨"prose.ls8", false, none⟩ (by decide +kernel)
  have gone := composes ["--trace", "gone.ls8"] ⟨"gone.ls8", true, none⟩ (by decide +kernel)
  refine ⟨askable ⟨"odd.ls8", false, some 3⟩ (by decide) (by simp), ?_, by decide +kernel,
    by decide +kernel, ?_, ?_⟩
  · obtain ⟨machine, loaded, runs⟩ := program.runs _ _ [0x47, 0, 0xff] rfl fromUTF8?_oddText
      parse_oddText (by decide)
    obtain rfl := Except.ok.inj (load_odd.symm.trans loaded)
    exact runs (program.limited odd rfl)
  · have refused := prose.unparsable _ _ ⟨2, "Hello"⟩ rfl
      (show _ = some "1\nHello\n" by decide +kernel) (by decide +kernel)
    have wording : ["Error: failed to parse " ++ quote "prose.ls8", "", "Caused by:",
        "    " ++ (⟨2, "Hello"⟩ : Source.ParseError).message] =
      ["Error: failed to parse \"prose.ls8\"", "", "Caused by:",
        "    line 2: \"Hello\" is not a binary byte"] := by decide +kernel
    rwa [wording] at refused
  · have refused := gone.inaccessible .missing rfl
    have wording : ["Error: failed to read " ++ quote "gone.ls8", "", "Caused by:",
        "    " ++ AccessError.missing.message] =
      ["Error: failed to read \"gone.ls8\"", "", "Caused by:",
        "    No such file or directory (os error 2)"] := by decide +kernel
    rwa [wording] at refused

end ByteMachine.CommandLine
