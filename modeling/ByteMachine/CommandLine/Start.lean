/-
**From a file to a loaded machine.**

`prepare` reads, parses and loads a program. Whatever goes wrong there ends the session before an
instruction is executed (`StartFailure`); `StartFailure.lines` words it.
-/

import ByteMachine.CommandLine.Storage
import ByteMachine.Machine
import ByteMachine.Source.Program

namespace ByteMachine.CommandLine

/-- Why a file has no text. -/
inductive ReadFailure where
  /-- Its bytes cannot be had. -/
  | inaccessible (error : AccessError)
  | notText
  deriving DecidableEq, Repr

/-- The wording of a failure to read. -/
def ReadFailure.message : ReadFailure → String
  | .inaccessible error => error.message
  | .notText => "stream did not contain valid UTF-8"

/-- Why a session ends before an instruction is executed. -/
inductive StartFailure where
  | unreadable (cause : ReadFailure)
  | unparsable (cause : Source.ParseError)
  | unloadable (fault : Fault)
  deriving DecidableEq, Repr

/-- A machine with a program in it. -/
structure Loaded where
  size : Nat
  machine : Machine
  deriving DecidableEq, Repr

/-- The text of a file. -/
def readText (file : Except AccessError ByteArray) : Except ReadFailure String :=
  match file with
  | .error error => .error (.inaccessible error)
  | .ok bytes =>
    match String.fromUTF8? bytes with
    | none => .error .notText
    | some text => .ok text

/-- Reads, parses and loads a program. -/
def prepare (file : Except AccessError ByteArray) : Except StartFailure Loaded :=
  match readText file with
  | .error cause => .error (.unreadable cause)
  | .ok text =>
    match Source.parse text with
    | .error cause => .error (.unparsable cause)
    | .ok program =>
      match Machine.boot.load program with
      | .error fault => .error (.unloadable fault)
      | .ok machine => .ok ⟨program.length, machine⟩

/-- The lines about an attempt that failed and the cause of it. -/
def failureLines (attempt cause : String) : List String :=
  ["Error: " ++ attempt, "", "Caused by:", "    " ++ cause]

/-- The lines about a session that ends before the run. -/
def StartFailure.lines (path : String) : StartFailure → List String
  | .unreadable cause => failureLines ("failed to read " ++ Text.Quoted.quote path) cause.message
  | .unparsable cause => failureLines ("failed to parse " ++ Text.Quoted.quote path) cause.message
  | .unloadable fault => ["Error: " ++ fault.message]

end ByteMachine.CommandLine
