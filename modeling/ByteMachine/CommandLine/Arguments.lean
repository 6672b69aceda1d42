/-
**The arguments of the command line.**

    [--trace] [--max-steps <MAX_STEPS>] <PROGRAM>

`Arguments.read` turns them into a `Command` or a `UsageError`. A value is not looked at when it
is read but is left pending (`Pending`): it is settled when the next argument takes effect, so an
argument that is wrong by itself is reported before a pending value that is.
-/

import ByteMachine.CommandLine.Count
import ByteMachine.Text.ControlSequence

namespace ByteMachine.CommandLine

open Text.ControlSequence (visible)

/-- What a run of a program needs to know. -/
structure Request where
  program : String
  trace : Bool
  /-- The largest number of instructions to execute, if there is a limit. -/
  maxSteps : Option Nat
  deriving DecidableEq, Repr

/-- How much of the help is shown. -/
inductive HelpForm where
  | summary
  | whole
  deriving DecidableEq, Repr

/-- What the arguments ask for. -/
inductive Command where
  | run (request : Request)
  | help (form : HelpForm)
  | version
  deriving DecidableEq, Repr

/-- The parameters that are given by name. -/
inductive Parameter where
  | trace
  | maxSteps
  /-- Its name asks for the whole help, its letter for the summary. -/
  | help (form : HelpForm)
  | version
  deriving DecidableEq, Repr

/-- A parameter as a message shows it. -/
def Parameter.usage : Parameter → String
  | .trace => "--trace"
  | .maxSteps => "--max-steps <MAX_STEPS>"
  | .help _ => "--help"
  | .version => "--version"

/-- What is wrong with the arguments. -/
inductive UsageError where
  | missingProgram
  | emptyProgram
  | missingValue (parameter : Parameter)
  | repeated (parameter : Parameter)
  | invalidCount (value : String) (fault : Count.Fault)
  | unneededValue (parameter : Parameter) (value : String)
  /-- An argument is no parameter, or there is one value too many. -/
  | unexpected (argument : String)
  deriving DecidableEq, Repr

/-- The wording of a usage error, which shows what was given as a terminal would. -/
def UsageError.message : UsageError → String
  | .missingProgram => "the following required arguments were not provided:\n  <PROGRAM>"
  | .emptyProgram => "a value is required for '<PROGRAM>' but none was supplied"
  | .missingValue parameter =>
    s!"a value is required for '{parameter.usage}' but none was supplied"
  | .repeated parameter => s!"the argument '{parameter.usage}' cannot be used multiple times"
  | .invalidCount value fault =>
    s!"invalid value '{visible value}' for '{Parameter.maxSteps.usage}': {fault.message}"
  | .unneededValue parameter value =>
    s!"unexpected value '{visible value}' for '{parameter.usage}' found; no more were expected"
  | .unexpected argument => s!"unexpected argument '{visible argument}' found"

namespace Arguments

/-! ### The shape of one argument -/

/-- What an argument looks like. -/
inductive Shape where
  /-- Two dashes alone: what follows are values. -/
  | separator
  /-- Two dashes and a name, perhaps with a value attached by an equals sign. -/
  | long (name : String) (value : Option String)
  /-- A dash and letters, of which the first counts. -/
  | short (letter : Char)
  /-- Anything else, a lone dash included. -/
  | value
  deriving DecidableEq, Repr

/-- A name and the value attached to it by the first equals sign. -/
def attached (text : List Char) : String × Option String :=
  let name := text.takeWhile (· ≠ '=')
  (String.ofList name, (text.dropWhile (· ≠ '=')).tail?.map String.ofList)

/-- The shape of an argument. -/
def shape (argument : String) : Shape :=
  match argument.toList with
  | ['-', '-'] => .separator
  | '-' :: '-' :: text => .long (attached text).1 (attached text).2
  | '-' :: letter :: _ => .short letter
  | _ => .value

/-- The parameter with a long name. -/
def parameterOfName : String → Option Parameter
  | "trace" => some .trace
  | "max-steps" => some .maxSteps
  | "help" => some (.help .whole)
  | "version" => some .version
  | _ => none

/-- The parameter with a letter. -/
def parameterOfLetter : Char → Option Parameter
  | 'h' => some (.help .summary)
  | 'V' => some .version
  | _ => none

/-! ### Reading from left to right -/

/-- A value that was read but not yet looked at. -/
inductive Pending where
  | program (path : String)
  /-- The limit on instructions; the parameter may still wait for it. -/
  | maxSteps (value : Option String)
  deriving DecidableEq, Repr

/-- What is known after some of the arguments. -/
structure Reading where
  /-- The path of the program, if it is settled. -/
  program : Option String := none
  trace : Bool := false
  /-- The limit on instructions, if it is settled. -/
  maxSteps : Option Nat := none
  /-- The value that is not settled. -/
  pending : Option Pending := none
  deriving DecidableEq, Repr

namespace Reading

/-- Looks at the pending value. -/
def settle (reading : Reading) : Except UsageError Reading :=
  match reading.pending with
  | none => .ok reading
  | some (.program path) =>
    if path = "" then .error .emptyProgram
    else .ok { reading with program := some path, pending := none }
  | some (.maxSteps none) => .error (.missingValue .maxSteps)
  | some (.maxSteps (some value)) =>
    if reading.maxSteps.isSome then .error (.repeated .maxSteps)
    else
      match Count.read value.toList with
      | .ok count => .ok { reading with maxSteps := some count, pending := none }
      | .error fault => .error (.invalidCount value fault)

/-- A path for the program was given, looked at or not. -/
def hasProgram (reading : Reading) : Bool :=
  reading.program.isSome ||
    match reading.pending with
    | some (.program _) => true
    | _ => false

/-- Takes a value that no parameter waits for: it is the path of the program. -/
def acceptProgram (reading : Reading) (path : String) : Except UsageError Reading :=
  if reading.hasProgram then .error (.unexpected path)
  else reading.settle.map fun settled => { settled with pending := some (.program path) }

/-- Takes a value: for the limit on instructions if that waits, for the program otherwise. -/
def acceptValue (reading : Reading) (value : String) : Except UsageError Reading :=
  match reading.pending with
  | some (.maxSteps none) => .ok { reading with pending := some (.maxSteps (some value)) }
  | _ => reading.acceptProgram value

/-- Ends the reading: everything must be settled, and there must be a program. -/
def finish (reading : Reading) : Except UsageError Command := do
  let settled ← reading.settle
  match settled.program with
  | some program => .ok (.run ⟨program, settled.trace, settled.maxSteps⟩)
  | none => .error .missingProgram

end Reading

/-- What a parameter does: it ends the reading with a command, or the reading goes on. -/
inductive Effect where
  | command (command : Command)
  | reading (reading : Reading)
  deriving DecidableEq, Repr

/-- The effect of a parameter with the value attached to it, if there is one. -/
def Reading.acceptParameter (reading : Reading) (parameter : Parameter) (value : Option String) :
    Except UsageError Effect := do
  match parameter, value with
  | .maxSteps, value =>
    let settled ← reading.settle
    let pending : Reading := { settled with pending := some (.maxSteps value) }
    if value.isSome then return .reading (← pending.settle) else return .reading pending
  | parameter, some value => throw (.unneededValue parameter value)
  | .trace, none =>
    let settled ← reading.settle
    if settled.trace then throw (.repeated .trace)
    return .reading { settled with trace := true }
  | .help form, none =>
    discard reading.settle
    return .command (.help form)
  | .version, none =>
    discard reading.settle
    return .command .version

/-- Reads values only, as they stand after a separator. -/
def readValues (reading : Reading) : List String → Except UsageError Command
  | [] => reading.finish
  | value :: rest => do readValues (← reading.acceptProgram value) rest

/-- Reads the arguments that are left. -/
def readFrom (reading : Reading) : List String → Except UsageError Command
  | [] => reading.finish
  | argument :: rest => do
    match shape argument with
    | .separator => readValues reading rest
    | .value => readFrom (← reading.acceptValue argument) rest
    | .long name value =>
      match parameterOfName name with
      | none => throw (.unexpected ("--" ++ name))
      | some parameter =>
        match ← reading.acceptParameter parameter value with
        | .command command => return command
        | .reading next => readFrom next rest
    | .short letter =>
      match parameterOfLetter letter with
      | none => throw (.unexpected (String.ofList ['-', letter]))
      | some parameter =>
        match ← reading.acceptParameter parameter none with
        | .command command => return command
        | .reading next => readFrom next rest

/-- What the arguments ask for. -/
def read (arguments : List String) : Except UsageError Command := readFrom {} arguments

end Arguments

end ByteMachine.CommandLine
