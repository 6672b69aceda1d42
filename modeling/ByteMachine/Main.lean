/-
**The command line.**

`main` reads the program file and the setting of the verbosity, runs the session and writes its
transcript.
-/

import ByteMachine.CommandLine.Session
import ByteMachine.CommandLine.Setting

namespace ByteMachine.CommandLine

/-- The number of a failure to read. -/
def failureCode : IO.Error → UInt32
  | .noFileOrDirectory _ code _ => code
  | .invalidArgument _ code _ => code
  | .permissionDenied _ code _ => code
  | .inappropriateType _ code _ => code
  | .otherError code _ => code
  | _ => 0

/-- The bytes at a path. -/
def readFile (path : String) : IO (Except AccessError ByteArray) := do
  try
    return .ok (← IO.FS.readBinFile path)
  catch failure =>
    return .error ((AccessError.ofCode? (failureCode failure).toNat).getD .missing)

/-- The path of the program that the arguments ask for. -/
def requestedProgram? (arguments : List String) : Option String :=
  match Arguments.read arguments with
  | .ok (.run request) => some request.program
  | _ => none

end ByteMachine.CommandLine

open ByteMachine.CommandLine in
/-- Runs a session and writes what it leaves behind. -/
def main (arguments : List String) : IO UInt32 := do
  let file ← match requestedProgram? arguments with
    | some path => readFile path
    | none => pure (.error .missing)
  let verbosity := Verbosity.ofSetting (← IO.getEnv "LS8_LOG")
  let start ← IO.monoMsNow
  let session ← pure (Session.run arguments fun _ => file)
  let transcript := session.transcript verbosity s!"{(← IO.monoMsNow) - start}ms"
  IO.print transcript.output
  for line in transcript.errors do
    IO.eprintln line
  return transcript.exitCode.toUInt32
