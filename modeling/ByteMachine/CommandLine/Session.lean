/-
**A session of the command line: from arguments and files to text and an exit code.**

* `Session.run` is the session itself. The loaded machine runs with a console for its device,
  under a monitor that applies the limit on instructions and collects the traces that were asked
  for (`watch`).
* `Session.transcript` is what a session leaves behind. What a program prints comes before the
  report on a bad instruction; the log goes to the other channel, and the verbosity governs
  nothing else.
-/

import ByteMachine.CommandLine.Arguments
import ByteMachine.CommandLine.Log
import ByteMachine.CommandLine.Start
import ByteMachine.Run

namespace ByteMachine.CommandLine

/-! ### The session -/

/-- The monitor of a session: it applies the limit and collects the traces that were asked for. -/
def watch (request : Request) : Monitor (Array Trace) Console :=
  fun count machine traces console =>
    { stop := request.maxSteps.any fun most => decide (most ≤ count)
      observer := if request.trace then traces.push machine.trace else traces
      device := console }

/-- Runs a loaded machine. -/
def execute (request : Request) (loaded : Loaded) : Outcome (Array Trace) Console :=
  Computer.runUntil (watch request) #[] ⟨loaded.machine, {}⟩

/-- How a session went. -/
inductive Session where
  | refused (error : UsageError)
  | help (form : HelpForm)
  | version
  | failed (request : Request) (failure : StartFailure)
  | ran (request : Request) (loaded : Loaded) (outcome : Outcome (Array Trace) Console)

namespace Session

/-- The session of a request, given what its file holds. -/
def ofRequest (request : Request) (file : Except AccessError ByteArray) : Session :=
  match prepare file with
  | .error failure => .failed request failure
  | .ok loaded => .ran request loaded (execute request loaded)

/-- The session of some arguments, given what is found at a path. -/
def run (arguments : List String) (files : String → Except AccessError ByteArray) : Session :=
  match Arguments.read arguments with
  | .error error => .refused error
  | .ok (.help form) => .help form
  | .ok .version => .version
  | .ok (.run request) => ofRequest request (files request.program)

end Session

/-! ### What it writes -/

/-- The log of a run: the size of the program, the traces, and how the run ended. -/
def runLog (request : Request) (loaded : Loaded) (outcome : Outcome (Array Trace) Console)
    (elapsed : String) : List Record :=
  let address := Text.Hex.literal outcome.computer.machine.pc
  let ending : List Record :=
    match outcome.exit with
    | .halted => [⟨.info, s!"halted at {address} after {elapsed}"⟩]
    | .stopped =>
      [⟨.warn, s!"stopped at {address} after {request.maxSteps.getD 0} instructions"⟩]
    | .faulted _ => []
    | .exhausted => []
  ⟨.info, s!"loaded {loaded.size} bytes from {Text.Quoted.quote request.program}"⟩ ::
    outcome.observer.toList.map (fun trace => ⟨.info, trace.text⟩) ++ ending

/-- The report on a bad instruction: the byte, and the state of the machine. -/
def badInstructionReport (opcode : UInt8) (trace : Trace) : String :=
  "Bad instruction " ++ Text.Hex.literal opcode ++ "\n" ++ trace.text ++ "\n"

/-- What is written after the printed values. -/
def exitReport : Exit → String
  | .faulted (.badInstruction opcode trace) => badInstructionReport opcode trace
  | _ => ""

/-- The lines about an exit that no session should see. -/
def exitErrors : Exit → List String
  | .faulted (.programTooLarge length) => ["Error: " ++ (Fault.programTooLarge length).message]
  | .exhausted => ["attempt to add with overflow"]
  | _ => []

/-- The exit code for the exit of a run. -/
def exitCode : Exit → Nat
  | .halted => 0
  | .stopped => 0
  | .faulted _ => 1
  | .exhausted => 101

/-- The name and number that the version shows. -/
def versionText : String := "ls8-cli 0.1.0\n"

/-- The first lines of the help in both of its forms. -/
def usageText : String :=
  "Command-line runner for LS8 programs\n\n" ++
  "Usage: ls8 [OPTIONS] <PROGRAM>\n\n"

/-- What the help shows. Its summary takes a line for each parameter, and both forms name the way to
the other one. -/
def helpText : HelpForm → String
  | .summary =>
    usageText ++
    "Arguments:\n" ++
    "  <PROGRAM>  Program to load and execute, one binary byte per line\n\n" ++
    "Options:\n" ++
    "      --trace                  Log the CPU state before every instruction\n" ++
    "      --max-steps <MAX_STEPS>  Stop after executing this many instructions\n" ++
    "  -h, --help                   Print help (see more with '--help')\n" ++
    "  -V, --version                Print version\n"
  | .whole =>
    usageText ++
    "Arguments:\n" ++
    "  <PROGRAM>\n" ++
    "          Program to load and execute, one binary byte per line\n\n" ++
    "Options:\n" ++
    "      --trace\n" ++
    "          Log the CPU state before every instruction\n          \n" ++
    "          Trace lines are logged at \x60info\x60 level, so they are hidden if " ++
    "\x60LS8_LOG\x60 is set to \x60warn\x60 or quieter.\n\n" ++
    "      --max-steps <MAX_STEPS>\n" ++
    "          Stop after executing this many instructions\n\n" ++
    "  -h, --help\n" ++
    "          Print help (see a summary with '-h')\n\n" ++
    "  -V, --version\n" ++
    "          Print version\n"

/-- What a session leaves behind. -/
structure Transcript where
  exitCode : Nat
  output : String
  errors : List String
  deriving DecidableEq, Repr

/-- The transcript of a session, for a verbosity and the text of the time that the run took. -/
def Session.transcript (verbosity : Verbosity) (elapsed : String) : Session → Transcript
  | .refused error => ⟨2, "", ("error: " ++ error.message).splitOn "\n"⟩
  | .help form => ⟨0, helpText form, []⟩
  | .version => ⟨0, versionText, []⟩
  | .failed request failure => ⟨1, "", failure.lines request.program⟩
  | .ran request loaded outcome =>
    { exitCode := CommandLine.exitCode outcome.exit
      output := outcome.computer.device.text ++ exitReport outcome.exit
      errors := verbosity.lines (runLog request loaded outcome elapsed) ++ exitErrors outcome.exit }

end ByteMachine.CommandLine
