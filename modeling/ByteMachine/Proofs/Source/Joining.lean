/-
**Texts joined at a line feed are read one after the other.**

* `parse_joined`: the bytes of the first text and then those of the second, or the first error of
  the two; an error of the second is as many lines further down as the first has pieces.
* `parse_ended`: a line feed at the end of a text never matters.
* `parse_inserted`: **lines that say nothing only move the errors below them.** `line_of_parse` says
  which those are: the errors of a text are in its pieces.
* `joined_texts_parse`: the three together.
-/

import ByteMachine.Proofs.Source.Pieces

namespace ByteMachine.Source

/-- How many line feeds a text holds. -/
def feeds (text : String) : Nat := text.toList.count '\n'

/-- Every line of the text is blank or a comment. -/
def Silent (text : String) : Prop := ∀ entry ∈ entries text, entry = []

variable {text inserted : String} {error : ParseError}

/-! ### Two texts -/

theorem toList_joined (first second : String) :
    (first ++ "\n" ++ second).toList = first.toList ++ '\n' :: second.toList := by
  simp

theorem feeds_ended (text : String) : feeds (text ++ "\n") = feeds text + 1 := by
  simp [feeds]

/-- **Texts joined at a line feed are read one after the other.** -/
theorem parse_joined (first second : String) :
    parse (first ++ "\n" ++ second) =
      match parse first, parse second with
      | .error error, _ => .error error
      | .ok bytes, .ok more => .ok (bytes ++ more)
      | .ok _, .error error => .error (error.below (1 + feeds first)) := by
  have count : (pieces first.toList).length = 1 + feeds first := by
    rw [length_pieces, Nat.add_comm]
    rfl
  rw [parse_eq_parseLines_pieces, toList_joined, pieces_append_feed, parseLines_append, count,
    parseLines_below, ← parse_eq_parseLines_pieces, ← parse_eq_parseLines_pieces]
  cases parse first with
  | error error => rfl
  | ok bytes => cases parse second <;> rfl

/-! ### Lines that say nothing -/

theorem parse_of_silent (silent : Silent text) : parse text = .ok [] := by
  have nothing : ∀ line ∈ lines text.toList, content line = [] := by
    intro line found
    apply silent
    rw [entries_eq_content]
    exact List.mem_map_of_mem found
  exact parseLines_of_silent nothing 1

/-- **A line feed at the end never matters.** -/
theorem parse_ended (text : String) : parse (text ++ "\n") = parse text := by
  have joined := parse_joined text ""
  rw [String.append_empty, show parse "" = .ok [] from rfl] at joined
  rw [joined]
  cases parse text with
  | error error => rfl
  | ok bytes => exact congrArg Except.ok (List.append_nil bytes)

/-- An error of a text is in one of its pieces. -/
theorem line_of_parse (failed : parse text = .error error) :
    1 ≤ error.line ∧ error.line ≤ 1 + feeds text := by
  rw [parse_eq_parseLines_pieces] at failed
  obtain ⟨above, below⟩ := line_of_parseLines failed
  rw [length_pieces] at below
  exact ⟨above, Nat.lt_succ_iff.mp below⟩

/-- In front of a text, lines that say nothing move all its errors. -/
theorem parse_silent_joined (silent : Silent inserted) (text : String) :
    parse (inserted ++ "\n" ++ text) =
      (parse text).mapError fun error => error.below (1 + feeds inserted) := by
  rw [parse_joined, parse_of_silent silent]
  cases parse text <;> rfl

/-- **Lines that say nothing only move the errors below them.** -/
theorem parse_inserted {above : String} (starts : StartsLine above) (silent : Silent inserted)
    (below : String) :
    parse (above ++ inserted ++ "\n" ++ below) =
      (parse (above ++ below)).mapError fun error =>
        if error.line ≤ feeds above then error else error.below (1 + feeds inserted) := by
  have front := parse_silent_joined silent below
  rcases starts with rfl | ⟨text, rfl⟩
  · rw [String.empty_append, String.empty_append, front]
    cases failed : parse below with
    | ok bytes => rfl
    | error error =>
      have further : ¬ error.line ≤ feeds "" := Nat.not_le.mpr (line_of_parse failed).1
      exact congrArg Except.error (if_neg further).symm
  · have seam : text ++ "\n" ++ inserted ++ "\n" ++ below =
        text ++ "\n" ++ (inserted ++ "\n" ++ below) := by simp only [String.append_assoc]
    rw [seam, parse_joined text (inserted ++ "\n" ++ below), front, parse_joined text below,
      feeds_ended]
    cases read : parse text with
    | error error =>
      have within : error.line ≤ feeds text + 1 := by
        rw [Nat.add_comm]
        exact (line_of_parse read).2
      exact congrArg Except.error (if_pos within).symm
    | ok bytes =>
      cases failed : parse below with
      | ok more => rfl
      | error error =>
        have further : ¬ error.line + (1 + feeds text) ≤ feeds text + 1 := by
          have := (line_of_parse failed).1
          omega
        refine congrArg Except.error (Eq.trans ?_ (if_neg further).symm)
        simp only [ParseError.below, Nat.add_right_comm]

/-- **Texts joined at a line feed are read one after the other**: the bytes of both, or the first
error, with its line counted from the start of the whole. So a line feed at the end never matters,
and lines that are blank or comments only move the errors below them. -/
theorem joined_texts_parse :
    (∀ first second, parse (first ++ "\n" ++ second) =
        match parse first, parse second with
        | .error error, _ => .error error
        | .ok bytes, .ok more => .ok (bytes ++ more)
        | .ok _, .error error => .error (error.below (1 + feeds first))) ∧
      (∀ text, parse (text ++ "\n") = parse text) ∧
      ∀ above inserted below, StartsLine above → Silent inserted →
        parse (above ++ inserted ++ "\n" ++ below) =
          (parse (above ++ below)).mapError fun error =>
            if error.line ≤ feeds above then error else error.below (1 + feeds inserted) :=
  ⟨parse_joined, parse_ended, fun _ _ below starts silent => parse_inserted starts silent below⟩

/-- A carriage return at the seam, and two lines put in above an error. -/
theorem seams_parse :
    StartsLine "1\r\n" ∧ Silent " \t\n# two" ∧
      parse ("1\r" ++ "\n" ++ "\n2") = .error ⟨3, "2"⟩ ∧
      parse ("1\r\n" ++ " \t\n# two" ++ "\n" ++ "2") = .error ⟨4, "2"⟩ := by
  have starts : StartsLine "1\r\n" := .inr ⟨"1\r", rfl⟩
  have silent : Silent " \t\n# two" := by
    have nothing : ∀ entry ∈ entries " \t\n# two", entry = [] := by decide +kernel
    exact nothing
  obtain ⟨joined, -, inserted⟩ := joined_texts_parse
  refine ⟨starts, silent, ?_, ?_⟩
  · rw [joined, show parse "1\r" = .ok [1] by decide +kernel,
      show parse "\n2" = .error ⟨2, "2"⟩ by decide +kernel]
    decide +kernel
  · rw [inserted _ _ _ starts silent,
      show parse ("1\r\n" ++ "2") = .error ⟨2, "2"⟩ by decide +kernel]
    decide +kernel

end ByteMachine.Source
