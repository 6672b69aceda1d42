/-
**The output of a session is unambiguous.**

A session writes a line for each printed value and, where it ends at a byte that is no opcode, a
report. `Tells` says what became of the program; the output determines it.

* `Trace.text_injective`, `Trace.length_text`: the line of a trace has columns of fixed width, so it
  is the line of that trace only.
* `printedValues_lines`: **the printed values are read off an output**, whatever comes behind them
  that does not begin with a digit. A report does not.
* `badReport_injective`: a report determines the byte and the trace.
* `output_unambiguous`: **sessions with the same output have printed the same and ended alike**, as
  far as bad instructions go.
-/

import ByteMachine.Proofs.CommandLine.Tracing
import ByteMachine.Proofs.Source.Pieces
import ByteMachine.Proofs.Text.Numbers

namespace ByteMachine

open Text (append_inj_of_length)
open Text.Hex (upperByte spaced)

/-- The values that the first steps of a machine print, in order. -/
def Machine.printouts (machine : Machine) (executed : Nat) : List UInt8 :=
  (List.range executed).filterMap fun done => (machine.after done).printing?

/-- The byte that is no opcode, and the state of the machine there, if that is the end. -/
def Exit.badInstruction? : Exit → Option (UInt8 × Trace)
  | .faulted (.badInstruction opcode trace) => some (opcode, trace)
  | _ => none

/-! ### The line of a trace -/

namespace Trace

theorem text_eq (trace : Trace) :
    trace.text = "TRACE: " ++ (upperByte trace.pc ++ (" | " ++ (upperByte trace.flags.bits ++
      (" | " ++ (spaced trace.bytes.toList ++ (" | " ++ spaced trace.registers.toList)))))) := by
  unfold text
  simp only [String.append_assoc]

theorem length_registers (trace : Trace) : trace.registers.toList.length = 8 :=
  Vector.length_toList

/-- **The line of a trace has a fixed width.** -/
theorem length_text (trace : Trace) : trace.text.length = 51 := by
  have front : "TRACE: ".length = 7 := rfl
  have between : " | ".length = 3 := rfl
  simp only [text_eq, String.length_append, Text.Hex.length_upperByte, Text.Hex.length_spaced,
    Vector.length_toList, length_registers, front, between]

/-- **The line of a trace is that of no other**, column by column. -/
theorem text_injective : Function.Injective text := by
  intro first second same
  have width : ∀ one other, (upperByte one).length = (upperByte other).length :=
    fun one other => (Text.Hex.length_upperByte one).trans (Text.Hex.length_upperByte other).symm
  have threeBytes : (spaced first.bytes.toList).length = (spaced second.bytes.toList).length := by
    simp only [Text.Hex.length_spaced, Vector.length_toList]
  rw [text_eq, text_eq] at same
  obtain ⟨-, same⟩ := append_inj_of_length same rfl
  obtain ⟨pc, same⟩ := append_inj_of_length same (width _ _)
  obtain ⟨-, same⟩ := append_inj_of_length same rfl
  obtain ⟨flags, same⟩ := append_inj_of_length same (width _ _)
  obtain ⟨-, same⟩ := append_inj_of_length same rfl
  obtain ⟨bytes, same⟩ := append_inj_of_length same threeBytes
  obtain ⟨-, registers⟩ := append_inj_of_length same rfl
  replace bytes := Text.Hex.spaced_injective
    (Vector.length_toList.trans Vector.length_toList.symm) bytes
  replace registers := Text.Hex.spaced_injective
    (first.length_registers.trans second.length_registers.symm) registers
  obtain ⟨firstPc, ⟨firstFlags⟩, firstBytes, ⟨firstCells⟩⟩ := first
  obtain ⟨secondPc, ⟨secondFlags⟩, secondBytes, ⟨secondCells⟩⟩ := second
  obtain rfl : firstPc = secondPc := Text.Hex.upperByte_injective pc
  obtain rfl : firstFlags = secondFlags := Text.Hex.upperByte_injective flags
  obtain rfl : firstBytes = secondBytes := Vector.toList_inj.mp bytes
  obtain rfl : firstCells = secondCells := Vector.toList_inj.mp registers
  rfl

end Trace

namespace CommandLine

open Source (pieces pieces_of_not_mem pieces_append_feed pieces_cons_feed pieces_cons_of_ne)

/-! ### What a session tells -/

/-- **What became of a program.** A session of it is over, has printed these values, and has ended
at such a byte, or at none. -/
def Session.Tells (session : Session) (printed : List UInt8) (bad : Option (UInt8 × Trace)) :
    Prop :=
  ∃ request loaded outcome executed, session = .ran request loaded outcome ∧
    Computer.EndsAfter request.maxSteps ⟨loaded.machine, {}⟩ executed outcome ∧
    printed = loaded.machine.printouts executed ∧ bad = outcome.exit.badInstruction?

/-- The report on the byte that is no opcode, if there is one. -/
def badReport (bad : Option (UInt8 × Trace)) : String :=
  bad.elim "" fun found => badInstructionReport found.1 found.2

/-- A line of decimal digits. -/
def isDecimal (piece : List Char) : Bool := !piece.isEmpty && piece.all Char.isDigit

/-- The values of the decimal lines that an output begins with. -/
def printedValues (output : String) : List UInt8 :=
  ((pieces output.toList).takeWhile isDecimal).map fun digits =>
    UInt8.ofNat (Nat.ofDigitChars 10 digits 0)

variable {rest : String} {bad : Option (UInt8 × Trace)}

/-! ### The printed values -/

theorem isDecimal_toString (number : Nat) : isDecimal (toString number).toList = true := by
  have digits : (toString number).toList.all Char.isDigit = true :=
    List.all_eq_true.mpr fun char => Text.isDigit_of_mem_toString
  have filled : (toString number).toList.isEmpty = false := by
    rw [Nat.toString_eq_ofList_toDigits, String.toList_ofList, List.isEmpty_eq_false_iff]
    exact Nat.toDigits_ne_nil
  rw [isDecimal, digits, filled]
  rfl

/-- A line is a piece of its own. -/
theorem pieces_line (value : UInt8) (rest : List Char) :
    pieces ((Console.line value).toList ++ rest) =
      (toString value.toNat).toList :: pieces rest := by
  have whole : '\n' ∉ (toString value.toNat).toList := by
    intro found
    exact absurd (Text.isDigit_of_mem_toString found) (by decide)
  have split : (Console.line value).toList ++ rest =
      (toString value.toNat).toList ++ '\n' :: rest := by
    rw [Console.line, String.toList_append, List.append_assoc]
    rfl
  rw [split, pieces_append_feed, pieces_of_not_mem whole]
  rfl

theorem pieces_lines (values : List UInt8) (rest : List Char) :
    pieces ((String.join (values.map Console.line)).toList ++ rest) =
      values.map (fun value => (toString value.toNat).toList) ++ pieces rest := by
  induction values with
  | nil => rfl
  | cons value more ih =>
    rw [List.map_cons, String.join_cons, String.toList_append, List.append_assoc, pieces_line, ih]
    rfl

/-- A text that begins with no digit has no number for its first piece. -/
theorem takeWhile_pieces_cons {char : Char} (foreign : char.isDigit = false) (rest : List Char) :
    (pieces (char :: rest)).takeWhile isDecimal = [] := by
  by_cases feed : char = '\n'
  · rw [feed, pieces_cons_feed]
    rfl
  · rw [pieces_cons_of_ne feed]
    cases pieces rest with
    | nil => rfl
    | cons piece more => simp [isDecimal, foreign]

/-- **The printed values are read off an output**, if what comes behind them is no number. -/
theorem printedValues_lines (values : List UInt8)
    (foreign : (pieces rest.toList).takeWhile isDecimal = []) :
    printedValues (String.join (values.map Console.line) ++ rest) = values := by
  have decimals : ∀ piece ∈ values.map (fun value => (toString value.toNat).toList),
      isDecimal piece = true := by
    intro piece found
    obtain ⟨value, -, rfl⟩ := List.mem_map.mp found
    exact isDecimal_toString value.toNat
  rw [printedValues, String.toList_append, pieces_lines, List.takeWhile_append_of_pos decimals,
    foreign, List.append_nil, List.map_map]
  have read : ∀ value : UInt8,
      UInt8.ofNat (Nat.ofDigitChars 10 (toString value.toNat).toList 0) = value := by
    intro value
    rw [Text.ofDigitChars_toString, UInt8.ofNat_toNat]
  exact (List.map_congr_left fun value _ => read value).trans (List.map_id values)

/-! ### The report -/

theorem exitReport_eq (exit : Exit) : exitReport exit = badReport exit.badInstruction? := by
  cases exit with
  | faulted fault => cases fault <;> rfl
  | halted | stopped | exhausted => rfl

theorem badInstructionReport_eq (opcode : UInt8) (trace : Trace) :
    badInstructionReport opcode trace =
      "Bad instruction " ++ (Text.Hex.literal opcode ++ ("\n" ++ (trace.text ++ "\n"))) := by
  unfold badInstructionReport
  rw [String.append_assoc, String.append_assoc, String.append_assoc]

/-- A report begins with no digit. -/
theorem takeWhile_badReport (bad : Option (UInt8 × Trace)) :
    (pieces (badReport bad).toList).takeWhile isDecimal = [] := by
  cases bad with
  | none => rfl
  | some found =>
    have letters : "Bad instruction ".toList = 'B' :: "ad instruction ".toList := rfl
    rw [badReport, Option.elim_some, badInstructionReport_eq, String.toList_append, letters,
      List.cons_append]
    exact takeWhile_pieces_cons (by decide) _

/-- **A report determines the byte and the trace.** -/
theorem badReport_injective : Function.Injective badReport := by
  have reported : ∀ found, badReport (some found) ≠ "" := by
    intro found empty
    rw [badReport, Option.elim_some, badInstructionReport_eq, String.append_eq_empty_iff] at empty
    exact absurd empty.1 (by decide)
  rintro (_ | ⟨opcode, trace⟩) (_ | ⟨opcode', trace'⟩) same
  · rfl
  · exact absurd same.symm (reported _)
  · exact absurd same (reported _)
  · have columns : (Text.Hex.literal opcode).length = (Text.Hex.literal opcode').length :=
      (Text.Hex.length_literal opcode).trans (Text.Hex.length_literal opcode').symm
    simp only [badReport, Option.elim_some, badInstructionReport_eq] at same
    obtain ⟨-, same⟩ := append_inj_of_length same rfl
    obtain ⟨literal, same⟩ := append_inj_of_length same columns
    obtain ⟨-, same⟩ := append_inj_of_length same rfl
    obtain ⟨texts, -⟩ := append_inj_of_length same
      (trace.length_text.trans trace'.length_text.symm)
    rw [Text.Hex.literal_injective literal, Trace.text_injective texts]

/-! ### Sessions -/

/-- A console has a line for each value that the executed instructions have printed. -/
theorem text_of_reaches {machine : Machine} {executed : Nat} {final : Computer Console}
    (reaches : Computer.Reaches ⟨machine, {}⟩ executed final) :
    final.device.text = String.join ((machine.printouts executed).map Console.line) := by
  have mirrored : Computer.after (⟨machine, {}⟩ : Computer Console) executed =
      ((Computer.collecting machine).after executed).mapDevice written :=
    Computer.after_mapDevice written_relays (Computer.collecting machine) executed
  rw [reaches.arrives, mirrored, Machine.printouts, ← Computer.device_after_collecting]
  rfl

/-- **What a session writes** is all told. -/
theorem output_of_tells {session : Session} {printed : List UInt8}
    (tells : session.Tells printed bad) (verbosity : Verbosity) (elapsed : String) :
    (session.transcript verbosity elapsed).output =
      String.join (printed.map Console.line) ++ badReport bad := by
  obtain ⟨request, loaded, outcome, executed, rfl, ends, rfl, rfl⟩ := tells
  rw [← text_of_reaches ends.reaches, ← exitReport_eq]
  rfl

section Run

variable {arguments : List String} {files : String → Except AccessError ByteArray}
  {request : Request} {loaded : Loaded} {outcome : Outcome (Array Trace) Console}

theorem outcome_of_run (ran : Session.run arguments files = .ran request loaded outcome) :
    outcome = execute request loaded := by
  unfold Session.run at ran
  cases asked : Arguments.read arguments with
  | error error =>
    rw [asked] at ran
    cases ran
  | ok command =>
    rw [asked] at ran
    cases command with
    | help | version => cases ran
    | run other =>
      change Session.ofRequest other (files other.program) = _ at ran
      cases prepared : prepare (files other.program) with
      | error failure =>
        rw [ofRequest_of_failed prepared] at ran
        cases ran
      | ok machine =>
        rw [ofRequest_of_prepared prepared] at ran
        cases ran
        rfl

/-- Every session that has loaded its program tells something, unless its count was exhausted. -/
theorem exists_tells (ran : Session.run arguments files = .ran request loaded outcome)
    (ended : outcome.exit ≠ .exhausted) :
    ∃ printed bad, (Session.run arguments files).Tells printed bad := by
  obtain rfl := outcome_of_run ran
  obtain ⟨executed, guarded⟩ := exists_guarded_execute ended
  have ends := Computer.endsAfter_of_guarded (limits_watch request) guarded
  exact ⟨_, _, request, loaded, _, executed, ran, ends, rfl, rfl⟩

end Run

/-- **The output of a session is unambiguous.** A session that has loaded its program and is over
tells what it has printed, and whether and how it has ended at a bad instruction. Its output shows
the printed values, and two sessions with the same output tell the same. The line of a trace is that
of no other and as wide as all, and lines of values are read as the values. -/
theorem output_unambiguous :
    (∀ arguments files request loaded outcome,
        Session.run arguments files = .ran request loaded outcome → outcome.exit ≠ .exhausted →
          ∃ printed bad, (Session.run arguments files).Tells printed bad) ∧
      (∀ (session : Session) printed bad, session.Tells printed bad → ∀ verbosity elapsed,
        printedValues (session.transcript verbosity elapsed).output = printed) ∧
      (∀ (first second : Session) printed others bad other,
        first.Tells printed bad → second.Tells others other →
          ∀ verbosity elapsed verbosity' elapsed',
            (first.transcript verbosity elapsed).output =
                (second.transcript verbosity' elapsed').output →
              printed = others ∧ bad = other) ∧
      Function.Injective Trace.text ∧ (∀ trace : Trace, trace.text.length = 51) ∧
      ∀ values, printedValues (String.join (values.map Console.line)) = values := by
  have reads : ∀ (session : Session) printed bad, session.Tells printed bad →
      ∀ verbosity elapsed,
        printedValues (session.transcript verbosity elapsed).output = printed := by
    intro session printed bad tells verbosity elapsed
    rw [output_of_tells tells, printedValues_lines printed (takeWhile_badReport bad)]
  refine ⟨fun _ _ _ _ _ => exists_tells, reads, ?_, Trace.text_injective, Trace.length_text,
    fun values => ?_⟩
  · intro first second printed others bad other tells tellsOther verbosity elapsed verbosity'
      elapsed' same
    obtain rfl : printed = others := by
      rw [← reads first printed bad tells verbosity elapsed, same,
        reads second others other tellsOther]
    rw [output_of_tells tells, output_of_tells tellsOther, String.append_right_inj] at same
    exact ⟨rfl, badReport_injective same⟩
  · have alone := printedValues_lines values (takeWhile_badReport none)
    rwa [show badReport none = "" from rfl, String.append_empty] at alone

/-- A limit that does not stop it, and traces in its log, leave the output of a program alone; so it
has printed the same and has ended at the same byte. -/
theorem odd_unambiguous :
    ∃ trace,
      (Session.run ["odd.ls8", "--max-steps=3"] samples).Tells [0] (some (0xff, trace)) ∧
        (Session.run ["--trace", "odd.ls8"] samples).Tells [0] (some (0xff, trace)) := by
  obtain ⟨tells, reads, unambiguous, -⟩ := output_unambiguous
  have prepared : prepare (samples "odd.ls8") = .ok ⟨3, odd⟩ :=
    prepare_of_loaded fromUTF8?_oddText parse_oddText load_odd
  have limited : Session.run ["odd.ls8", "--max-steps=3"] samples =
      .ran ⟨"odd.ls8", false, some 3⟩ ⟨3, odd⟩ (execute ⟨"odd.ls8", false, some 3⟩ ⟨3, odd⟩) :=
    (run_of_read (by decide +kernel) samples).trans (ofRequest_of_prepared prepared)
  have traced : Session.run ["--trace", "odd.ls8"] samples =
      .ran ⟨"odd.ls8", true, none⟩ ⟨3, odd⟩ (execute ⟨"odd.ls8", true, none⟩ ⟨3, odd⟩) :=
    (run_of_read (by decide +kernel) samples).trans (ofRequest_of_prepared prepared)
  obtain ⟨printed, bad, told⟩ := tells _ _ _ _ _ limited (by decide +kernel)
  obtain ⟨others, other, toldTraced⟩ := tells _ _ _ _ _ traced (by decide +kernel)
  obtain ⟨rfl, rfl⟩ := unambiguous _ _ _ _ _ _ told toldTraced .off "" .off ""
    (by decide +kernel)
  have zero : printedValues
      ((Session.run ["odd.ls8", "--max-steps=3"] samples).transcript .off "").output = [0] := by
    decide +kernel
  obtain rfl : printed = [0] := (reads _ _ _ told .off "").symm.trans zero
  obtain ⟨trace, rfl⟩ : ∃ trace, bad = some (0xff, trace) := by
    obtain ⟨request, loaded, outcome, executed, ran, -, -, rfl⟩ := told
    cases limited.symm.trans ran
    exact ⟨(execute ⟨"odd.ls8", false, some 3⟩ ⟨3, odd⟩).computer.machine.trace,
      by decide +kernel⟩
  exact ⟨trace, told, toldTraced⟩

end CommandLine

end ByteMachine
