/-
**The verbosity that the environment asks for.**

A setting is a list of directives with commas between them. A directive gives a verbosity to the
records whose target begins with its scope (`Directive`), and where several do, the one with the
longest scope decides (`Directive.chosen?`). A pattern for the texts of records may follow behind a
slash; it is passed over.

* `Directive.read?`: what one directive may look like.
* `Verbosity.ofSetting`: without a setting the verbosity is the standard one, and an empty setting
  leaves only the errors.
-/

import ByteMachine.CommandLine.Log
import ByteMachine.Source.Line

namespace ByteMachine.CommandLine

open Source (trim)

/-- The target of every record. -/
def target : List Char := "ls8".toList

/-- A verbosity for the records whose target begins with a scope. -/
structure Directive where
  scope : List Char
  verbosity : Verbosity
  deriving DecidableEq, Repr

namespace Directive

/-- The directive holds for the records of the program. -/
def covers (directive : Directive) : Bool := directive.scope.isPrefixOf target

/-- Reads a directive: a verbosity for every target, a scope, or a scope with a verbosity behind an
equals sign. A scope without a verbosity shows everything. Anything else is no directive. -/
def read? (text : List Char) : Option Directive :=
  match (trim text).splitOn '=' with
  | [[]] => none
  | [word] =>
    match Verbosity.ofName? (String.ofList word) with
    | some verbosity => some ⟨[], verbosity⟩
    | none => some ⟨word, .everything⟩
  | [scope, word] =>
    if trim word = [] then some ⟨scope, .everything⟩
    else (Verbosity.ofName? (String.ofList (trim word))).map fun verbosity => ⟨scope, verbosity⟩
  | _ => none

/-- The directives of a setting; none if there is more than one pattern. -/
def readAll (setting : List Char) : List Directive :=
  match setting.splitOn '/' with
  | [listed] | [listed, _] => (listed.splitOn ',').filterMap read?
  | _ => []

/-- The directive with the longest scope that holds for the program, the last of those that are as
long. -/
def chosen? : List Directive → Option Directive
  | [] => none
  | directive :: rest =>
    match chosen? rest with
    | none => if directive.covers then some directive else none
    | some later =>
      if directive.covers ∧ later.scope.length < directive.scope.length then some directive
      else some later

end Directive

/-- The verbosity for the value of the environment's variable, or for none. -/
def Verbosity.ofSetting : Option String → Verbosity
  | none => standard
  | some setting =>
    match Directive.readAll setting.toList with
    | [] => .upTo .error
    | directives => ((Directive.chosen? directives).map Directive.verbosity).getD .off

end ByteMachine.CommandLine
