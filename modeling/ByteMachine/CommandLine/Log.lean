/-
**The log of the command line.**

A record has a level and a text; it is written when the verbosity lets its level through
(`Verbosity.shows`). A written record is one line that begins with the level in brackets.
-/

namespace ByteMachine.CommandLine

/-- How much a record matters. -/
inductive Level where
  | error
  | warn
  | info
  | debug
  | trace
  deriving DecidableEq, Repr

/-- The place of a level when the most important one comes first. -/
def Level.rank : Level → Nat
  | .error => 1
  | .warn => 2
  | .info => 3
  | .debug => 4
  | .trace => 5

/-- The name of a level in five columns. -/
def Level.column : Level → String
  | .error => "ERROR"
  | .warn => "WARN "
  | .info => "INFO "
  | .debug => "DEBUG"
  | .trace => "TRACE"

/-- Which records are written. -/
inductive Verbosity where
  | off
  /-- Those of a level and of the more important ones. -/
  | upTo (level : Level)
  deriving DecidableEq, Repr

namespace Verbosity

/-- Every record is written. -/
def everything : Verbosity := .upTo .trace

/-- The verbosities with their names. -/
def names : List (String × Verbosity) :=
  [("off", .off), ("error", .upTo .error), ("warn", .upTo .warn), ("info", .upTo .info),
    ("debug", .upTo .debug), ("trace", .everything)]

/-- The verbosity that a name stands for, in letters of either case. -/
def ofName? (name : String) : Option Verbosity := names.lookup name.toLower

/-- The verbosity when none is asked for. -/
def standard : Verbosity := .upTo .info

/-- Records of the level are written. -/
def shows : Verbosity → Level → Bool
  | .off, _ => false
  | .upTo most, level => level.rank ≤ most.rank

end Verbosity

/-- One message of the log. -/
structure Record where
  level : Level
  text : String
  deriving DecidableEq, Repr

/-- A record as it is written. -/
def Record.line (record : Record) : String := s!"[{record.level.column} ls8] {record.text}"

/-- The lines that are written of a log. -/
def Verbosity.lines (verbosity : Verbosity) (log : List Record) : List String :=
  (log.filter fun record => verbosity.shows record.level).map Record.line

end ByteMachine.CommandLine
