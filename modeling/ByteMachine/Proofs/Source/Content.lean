/-
**What does not change the content of a line.**

White space at either end of a line says nothing, and neither does a comment or what comes after the
line's end.

* `trim_append_blank`, `trim_blank_append`: trimming forgets white space at both ends.
* `content_append_of_ends`: **a comment is no content**, nor is what follows a line feed.
* `content_append_blank`, `content_blank_append`: **white space around a line is no content.**
-/

import ByteMachine.Source.Line
import Mathlib.Data.List.TakeWhile

namespace ByteMachine.Source

open Text (isBlank)

variable {blanks : List Char} {char : Char}

/-! ### Trimming -/

theorem trim_blank_append (blank : ∀ char ∈ blanks, isBlank char = true) (text : List Char) :
    trim (blanks ++ text) = trim text := by
  unfold trim
  rw [List.dropWhile_append_of_pos blank]

theorem trim_append_blank (text : List Char) (blank : ∀ char ∈ blanks, isBlank char = true) :
    trim (text ++ blanks) = trim text := by
  have mirrored : ∀ char ∈ blanks.reverse, isBlank char = true :=
    fun char found => blank char (List.mem_reverse.mp found)
  unfold trim
  rw [List.dropWhile_append]
  split
  · rename_i empty
    rw [List.isEmpty_iff.mp empty, List.dropWhile_eq_nil_iff.mpr blank]
  · rw [List.reverse_append, List.dropWhile_append_of_pos mirrored]

/-! ### Content -/

/-- White space other than a line feed does not end the content. -/
theorem endsContent_of_blank (blank : isBlank char = true) (kept : char ≠ '\n') :
    endsContent char = false := by
  have plain : char ≠ '#' := by
    rintro rfl
    exact absurd blank (by decide)
  simp [endsContent, plain, kept]

/-- **A comment is no content**, and neither is what follows a line feed. -/
theorem content_append_of_ends (line : List Char) (ends : endsContent char = true)
    (rest : List Char) : content (line ++ char :: rest) = content line := by
  have stops : (char :: rest).takeWhile (fun char => !endsContent char) = [] := by
    simp [ends]
  have same : (line ++ char :: rest).takeWhile (fun char => !endsContent char) =
      line.takeWhile fun char => !endsContent char := by
    rw [List.takeWhile_append, stops, List.append_nil]
    split
    · rename_i whole
      exact ((List.takeWhile_prefix _).eq_of_length whole).symm
    · rfl
  rw [content, content, same]

/-- **White space behind a line is no content.** -/
theorem content_append_blank (line : List Char) (blank : ∀ char ∈ blanks, isBlank char = true) :
    content (line ++ blanks) = content line := by
  unfold content
  rw [List.takeWhile_append]
  split
  · rename_i whole
    have behind : ∀ char ∈ blanks.takeWhile (fun char => !endsContent char),
        isBlank char = true :=
      fun char found => blank char ((List.takeWhile_sublist _).subset found)
    rw [trim_append_blank line behind, (List.takeWhile_prefix _).eq_of_length whole]
  · rfl

/-- **White space in front of a line is no content**, if the line does not end in it. -/
theorem content_blank_append (blank : ∀ char ∈ blanks, isBlank char = true)
    (whole : '\n' ∉ blanks) (line : List Char) : content (blanks ++ line) = content line := by
  have passes : ∀ char ∈ blanks, (!endsContent char) = true := by
    intro char found
    have kept : char ≠ '\n' := fun feed => whole (feed ▸ found)
    rw [endsContent_of_blank (blank char found) kept]
    rfl
  unfold content
  rw [List.takeWhile_append_of_pos passes, trim_blank_append blank]

end ByteMachine.Source
