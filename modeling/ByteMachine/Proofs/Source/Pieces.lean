/-
**The parser on the pieces of a text.**

The pieces of a text are what stands between its line feeds (`pieces`). They are its lines, and one
empty piece more behind a line feed at its end, which says nothing: so the parser may read them
instead (`parse_eq_parseLines_pieces`).

* `pieces_append_feed`, `pieces_append`: the pieces of two texts put together, at a line feed and
  without one.
* `parseLines_append`: **lines are read in order**, and the first error ends it.
* `parseLines_below`: the number of the first line is a shift of the error's line, and nothing else.
* `parseLines_congr`: a line counts by its content alone.
-/

import ByteMachine.Proofs.Source.Grammar

namespace ByteMachine.Source

/-- What stands between the line feeds of a text. -/
def pieces (text : List Char) : List (List Char) := text.splitOn '\n'

/-- A line begins behind this text: it is empty or ends in a line feed. -/
def StartsLine (text : String) : Prop := text = "" ∨ ∃ earlier, text = earlier ++ "\n"

/-- The error as it reads so many lines further down. -/
def ParseError.below (error : ParseError) (count : Nat) : ParseError :=
  { error with line := error.line + count }

/-! ### Pieces -/

theorem pieces_ne_nil (text : List Char) : pieces text ≠ [] := List.splitOn_ne_nil '\n' text

theorem pieces_of_not_mem {text : List Char} (whole : '\n' ∉ text) : pieces text = [text] :=
  List.splitOn_eq_singleton whole

/-- **Two texts put together at a line feed** have the pieces of both. -/
theorem pieces_append_feed (first second : List Char) :
    pieces (first ++ '\n' :: second) = pieces first ++ pieces second :=
  List.splitOn_append_cons_self first second

theorem pieces_cons_feed (rest : List Char) : pieces ('\n' :: rest) = [] :: pieces rest :=
  pieces_append_feed [] rest

theorem pieces_cons_of_ne {char : Char} (other : char ≠ '\n') (rest : List Char) :
    pieces (char :: rest) = (pieces rest).modifyHead (char :: ·) := by
  unfold pieces
  rw [List.splitOn_cons_eq_if_modifyHead, if_neg fun same => other (beq_iff_eq.mp same)]

/-- **Two texts put together** share the piece at the seam: the last of the one goes on in the first
of the other. -/
theorem pieces_append {first second left right : List Char} {earlier later : List (List Char)}
    (ends : pieces first = earlier ++ [left]) (begins : pieces second = right :: later) :
    pieces (first ++ second) = earlier ++ (left ++ right) :: later := by
  induction first generalizing earlier left with
  | nil =>
    obtain ⟨rfl, last⟩ := List.append_inj' (show [] ++ [[]] = earlier ++ [left] from ends) rfl
    obtain rfl := List.singleton_inj.mp last
    exact begins
  | cons char rest ih =>
    by_cases feed : char = '\n'
    · subst feed
      rw [pieces_cons_feed] at ends
      cases earlier with
      | nil => exact absurd (List.cons.inj ends).2 (pieces_ne_nil rest)
      | cons piece earlier =>
        obtain ⟨rfl, behind⟩ := List.cons.inj ends
        rw [List.cons_append, pieces_cons_feed, ih behind, List.cons_append]
    · obtain ⟨piece, more, whole⟩ := List.exists_cons_of_ne_nil (pieces_ne_nil rest)
      rw [pieces_cons_of_ne feed, whole, List.modifyHead_cons] at ends
      rw [List.cons_append, pieces_cons_of_ne feed]
      cases earlier with
      | nil =>
        obtain ⟨rfl, rfl⟩ := List.cons.inj ends
        rw [ih (show pieces rest = [] ++ [piece] from whole)]
        rfl
      | cons other earlier =>
        obtain ⟨rfl, rfl⟩ := List.cons.inj ends
        rw [ih (show pieces rest = (piece :: earlier) ++ [left] from whole)]
        rfl

/-- Where a line begins, nothing stands in it yet. -/
theorem getLast?_pieces_of_startsLine {text : String} (starts : StartsLine text) :
    (pieces text.toList).getLast? = some [] := by
  rcases starts with rfl | ⟨earlier, rfl⟩
  · rfl
  · rw [String.toList_append, show "\n".toList = '\n' :: [] from rfl, pieces_append_feed]
    exact List.getLast?_concat

/-- There is one piece more than line feeds. -/
theorem length_pieces (text : List Char) : (pieces text).length = text.count '\n' + 1 := by
  induction text with
  | nil => rfl
  | cons char rest ih =>
    by_cases feed : char = '\n'
    · subst feed
      rw [pieces_cons_feed, List.length_cons, ih, List.count_cons_self]
    · rw [pieces_cons_of_ne feed, List.length_modifyHead, ih, List.count_cons_of_ne feed]

/-! ### Reading lines -/

section Lines

variable {first second : List (List Char)} {bytes : List UInt8} {error : ParseError}

theorem parseLines_below (number count : Nat) (lines : List (List Char)) :
    parseLines (number + count) lines =
      (parseLines number lines).mapError fun error => error.below count := by
  induction lines generalizing number with
  | nil => rfl
  | cons line more ih =>
    by_cases fine : ∃ meaning, Denotes (content line) meaning
    · obtain ⟨meaning, denotes⟩ := fine
      rw [parseLines_of_denotes denotes, parseLines_of_denotes denotes, Nat.add_right_comm, ih]
      cases parseLines (number + 1) more <;> rfl
    · rw [parseLines_of_violates fine, parseLines_of_violates fine]
      rfl

/-- **Lines are read in order**, up to the first error. -/
theorem parseLines_append (number : Nat) (first second : List (List Char)) :
    parseLines number (first ++ second) =
      (parseLines number first).bind fun bytes =>
        (parseLines (number + first.length) second).map (bytes ++ ·) := by
  induction first generalizing number with
  | nil =>
    show parseLines number second = (parseLines number second).map ([] ++ ·)
    cases parseLines number second <;> rfl
  | cons line more ih =>
    by_cases fine : ∃ meaning, Denotes (content line) meaning
    · obtain ⟨meaning, denotes⟩ := fine
      rw [List.cons_append, parseLines_of_denotes denotes, parseLines_of_denotes denotes, ih,
        List.length_cons, Nat.add_right_comm, Nat.add_assoc]
      cases parseLines (number + 1) more with
      | error error => rfl
      | ok bytes =>
        cases parseLines (number + (more.length + 1)) second with
        | error error => rfl
        | ok behind => exact congrArg Except.ok (List.append_assoc _ _ _).symm
    · rw [List.cons_append, parseLines_of_violates fine, parseLines_of_violates fine]
      rfl

/-- A line counts by its content alone. -/
theorem parseLines_congr (same : first.map content = second.map content) (number : Nat) :
    parseLines number first = parseLines number second := by
  induction first generalizing second number with
  | nil => rw [List.map_eq_nil_iff.mp same.symm]
  | cons line more ih =>
    obtain ⟨other, rest, rfl, here, behind⟩ := List.map_eq_cons_iff.mp same.symm
    rw [parseLines, parseLines, here, ih behind.symm]

/-- Lines without content are read as nothing. -/
theorem parseLines_of_silent (silent : ∀ line ∈ first, content line = []) (number : Nat) :
    parseLines number first = .ok [] := by
  induction first generalizing number with
  | nil => rfl
  | cons line more ih =>
    rw [parseLines, if_pos (silent line List.mem_cons_self)]
    exact ih (fun other found => silent other (List.mem_cons_of_mem line found)) (number + 1)

/-- An error is in one of the lines that were read. -/
theorem line_of_parseLines {number : Nat} (failed : parseLines number first = .error error) :
    number ≤ error.line ∧ error.line < number + first.length := by
  rcases denote_or_first (first.map content) with
    ⟨meanings, denote⟩ | ⟨before, entry, after, violation⟩
  · rw [parseLines_of_denote denote] at failed
    cases failed
  · rw [parseLines_of_first violation] at failed
    obtain rfl := Except.error.inj failed
    have length := congrArg List.length violation.split
    rw [List.length_map, List.length_append, List.length_cons] at length
    refine ⟨Nat.le_add_right number before.length, ?_⟩
    show number + before.length < number + first.length
    omega

end Lines

/-! ### Reading pieces -/

/-- An empty piece behind the last line feed says nothing. -/
theorem parseLines_dropEmptyLast (number : Nat) (cut : List (List Char)) :
    parseLines number (dropEmptyLast cut) = parseLines number cut := by
  unfold dropEmptyLast
  split
  · rename_i last
    have whole : cut = cut.dropLast ++ [[]] := (List.dropLast_append_getLast? _ last).symm
    have nothing : ∀ line ∈ [[]], content line = [] := fun line found => by
      rw [List.mem_singleton.mp found]
      rfl
    rw [whole, parseLines_append, parseLines_of_silent nothing, List.dropLast_concat]
    cases parseLines number cut.dropLast with
    | error error => rfl
    | ok bytes => exact congrArg Except.ok (List.append_nil bytes).symm
  · rfl

/-- **The parser may read the pieces of a text for its lines.** -/
theorem parse_eq_parseLines_pieces (text : String) :
    parse text = parseLines 1 (pieces text.toList) := by
  rw [parse, lines_eq_pieces, parseLines_dropEmptyLast]
  rfl

/-- A text means what the contents of its pieces say. -/
theorem parse_congr {first second : String}
    (same : (pieces first.toList).map content = (pieces second.toList).map content) :
    parse first = parse second := by
  rw [parse_eq_parseLines_pieces, parse_eq_parseLines_pieces, parseLines_congr same]

end ByteMachine.Source
