/-
**The content of a line is a normal form.**

A line says what stands before its comment (`said`), and its content is that text trimmed.

* `trim_around`: **a text that neither starts nor ends with white space survives trimming**,
  whatever is put around it. So trimming gives the greatest such text (`infix_trim`) and does
  nothing the second time (`trim_of_clean`).
* `core_trim`: what is left of a text after trimming is its core.
* `content_content`: taking the content again changes nothing.
* `content_normal_form`: **the laws of the content**, and that it is the core of what is said.
-/

import ByteMachine.Proofs.Source.Content

namespace ByteMachine.Source

open Text (isBlank)

/-- What precedes the comment of a line, or its end. -/
def said (line : List Char) : List Char := line.takeWhile fun char => char ≠ '#' ∧ char ≠ '\n'

/-- The text neither starts nor ends with white space. -/
structure Clean (text : List Char) : Prop where
  first : ∀ char ∈ text.head?, isBlank char = false
  last : ∀ char ∈ text.getLast?, isBlank char = false

/-- **The core of a text**: all of it but white space at both ends, and the greatest of its parts
that neither start nor end with white space. -/
structure Core (text core : List Char) : Prop where
  around : ∃ before after, text = before ++ core ++ after ∧
    ∀ char ∈ before ++ after, isBlank char = true
  clean : Clean core
  greatest : ∀ other, other <:+: text → Clean other → other <:+: core

variable {text other : List Char} {char : Char}

/-! ### Trimming -/

/-- Dropping white space stops at the first other character. -/
theorem dropWhile_append_cons (left rest : List Char) (filled : isBlank char = false) :
    (left ++ char :: rest).dropWhile isBlank = left.dropWhile isBlank ++ char :: rest := by
  rw [List.dropWhile_append]
  split
  · rename_i blank
    rw [List.isEmpty_iff.mp blank, List.nil_append, List.dropWhile_cons_of_neg (by simp [filled])]
  · rfl

/-- **A text that neither starts nor ends with white space survives trimming.** -/
theorem trim_around (left right : List Char) (clean : Clean other) (filled : other ≠ []) :
    trim (left ++ other ++ right) =
      left.dropWhile isBlank ++ other ++ (right.reverse.dropWhile isBlank).reverse := by
  obtain ⟨first, behind, whole⟩ := List.exists_cons_of_ne_nil filled
  obtain ⟨last, before, mirrored⟩ :=
    List.exists_cons_of_ne_nil (mt List.reverse_eq_nil_iff.mp filled)
  have starts : isBlank first = false := clean.first first (by rw [whole]; rfl)
  have ends : isBlank last = false := by
    refine clean.last last ?_
    rw [← List.head?_reverse, mirrored]
    rfl
  -- From the left as far as the first character, and from the right as far as the last.
  have front : (left ++ other ++ right).dropWhile isBlank =
      left.dropWhile isBlank ++ (other ++ right) := by
    rw [whole, List.append_assoc, List.cons_append, dropWhile_append_cons _ _ starts]
  have back : (right.reverse ++ (other.reverse ++ (left.dropWhile isBlank).reverse)).dropWhile
      isBlank = right.reverse.dropWhile isBlank ++
        (other.reverse ++ (left.dropWhile isBlank).reverse) := by
    rw [mirrored, List.cons_append, dropWhile_append_cons _ _ ends]
  rw [trim, front, List.reverse_append, List.reverse_append, List.append_assoc, back,
    List.reverse_append, List.reverse_append, List.reverse_reverse, List.reverse_reverse]

theorem trim_of_clean (clean : Clean text) : trim text = text := by
  by_cases empty : text = []
  · rw [empty]
    rfl
  · have same := trim_around [] [] clean empty
    rwa [List.nil_append, List.append_nil, List.dropWhile_nil, List.nil_append, List.reverse_nil,
      List.dropWhile_nil, List.reverse_nil, List.append_nil] at same

/-- What neither starts nor ends with white space is kept. -/
theorem infix_trim (part : other <:+: text) (clean : Clean other) : other <:+: trim text := by
  by_cases empty : other = []
  · rw [empty]
    exact List.nil_infix
  · obtain ⟨left, right, rfl⟩ := part
    rw [trim_around left right clean empty]
    exact List.infix_append _ _ _

theorem clean_trim (text : List Char) : Clean (trim text) where
  first := by
    intro char found
    cases kept : text.dropWhile isBlank with
    | nil =>
      rw [trim, kept] at found
      cases found
    | cons first rest =>
      have filled : isBlank first = false := by
        have head := List.head?_dropWhile_not isBlank text
        rw [kept] at head
        simpa using head
      rw [trim, kept, List.reverse_cons, dropWhile_append_cons _ _ filled, List.reverse_append]
        at found
      obtain rfl := Option.some.inj found
      exact filled
  last := by
    intro char found
    rw [trim, List.getLast?_reverse] at found
    have head := List.head?_dropWhile_not isBlank (text.dropWhile isBlank).reverse
    rw [found] at head
    simpa using head

/-- White space is all that trimming takes away. -/
theorem exists_around_trim (text : List Char) :
    ∃ before after, text = before ++ trim text ++ after ∧
      ∀ char ∈ before ++ after, isBlank char = true := by
  have front := List.takeWhile_append_dropWhile (p := isBlank) (l := text)
  have back := congrArg List.reverse
    (List.takeWhile_append_dropWhile (p := isBlank) (l := (text.dropWhile isBlank).reverse))
  rw [List.reverse_append, List.reverse_reverse] at back
  refine ⟨text.takeWhile isBlank, ((text.dropWhile isBlank).reverse.takeWhile isBlank).reverse,
    ?_, fun char found => ?_⟩
  · rw [List.append_assoc, trim, back, front]
  · rw [List.mem_append, List.mem_reverse] at found
    rcases found with before | after
    · exact List.mem_takeWhile_imp before
    · exact List.mem_takeWhile_imp after

/-- **What is left after trimming is the core.** -/
theorem core_trim (text : List Char) : Core text (trim text) where
  around := exists_around_trim text
  clean := clean_trim text
  greatest := fun _ => infix_trim

theorem trim_part (text : List Char) : trim text <:+: text := by
  obtain ⟨before, after, whole, -⟩ := exists_around_trim text
  exact ⟨before, after, whole.symm⟩

/-! ### Content -/

theorem content_eq_trim_said (line : List Char) : content line = trim (said line) := by
  have same : (fun char => !endsContent char) =
      fun char : Char => decide (char ≠ '#' ∧ char ≠ '\n') := by
    funext char
    simp [endsContent, beq_eq_decide]
  rw [content, same]
  rfl

theorem plain_of_mem_said {line : List Char} (found : char ∈ said line) :
    char ≠ '#' ∧ char ≠ '\n' := by
  have plain := List.mem_takeWhile_imp
    (p := fun char : Char => decide (char ≠ '#' ∧ char ≠ '\n')) found
  exact of_decide_eq_true plain

/-- Nothing that ends the content is in it. -/
theorem plain_of_mem_content {line : List Char} (found : char ∈ content line) :
    char ≠ '#' ∧ char ≠ '\n' := by
  rw [content_eq_trim_said] at found
  exact plain_of_mem_said ((trim_part _).subset found)

theorem feed_not_mem_content (line : List Char) : '\n' ∉ content line :=
  fun found => (plain_of_mem_content found).2 rfl

/-- **Taking the content again changes nothing.** -/
theorem content_content (line : List Char) : content (content line) = content line := by
  have whole : said (content line) = content line :=
    List.takeWhile_eq_self_iff.mpr fun char found => decide_eq_true (plain_of_mem_content found)
  rw [content_eq_trim_said (content line), whole, content_eq_trim_said line]
  exact trim_of_clean (clean_trim (said line))

theorem content_part (line : List Char) : content line <:+: line := by
  rw [content_eq_trim_said]
  exact (trim_part (said line)).trans (List.takeWhile_prefix _).isInfix

/-- **The content of a line is a normal form.** Taking it again, a comment or another line behind
it, and white space around it make no difference. It is a part of the line, without the start of a
comment and without a line feed, and it is the core of what the line says. -/
theorem content_normal_form (line : List Char) :
    content (content line) = content line ∧
      (∀ rest, content (line ++ '#' :: rest) = content line ∧
        content (line ++ '\n' :: rest) = content line) ∧
      (∀ blanks, (∀ char ∈ blanks, isBlank char = true) → '\n' ∉ blanks →
        content (blanks ++ line) = content line ∧ content (line ++ blanks) = content line) ∧
      content line <:+: line ∧ '#' ∉ content line ∧ '\n' ∉ content line ∧
      Core (said line) (content line) := by
  refine ⟨content_content line, fun rest => ⟨?_, ?_⟩, fun blanks blank whole => ⟨?_, ?_⟩,
    content_part line, ?_, feed_not_mem_content line, ?_⟩
  · exact content_append_of_ends line (by decide) rest
  · exact content_append_of_ends line (by decide) rest
  · exact content_blank_append blank whole line
  · exact content_append_blank line blank
  · exact fun found => (plain_of_mem_content found).1 rfl
  · rw [content_eq_trim_said]
    exact core_trim (said line)

/-- A line with white space of many kinds, a comment, and another line behind it. -/
def ideographic : List Char := "\u3000\t1 0\u2003# two\n11".toList

theorem ideographic_normal_form :
    content (content ideographic) = "1 0".toList ∧
      content ("\u00a0\r".toList ++ ideographic) = "1 0".toList ∧
      content (ideographic ++ "\u2028".toList) = "1 0".toList ∧
      content (ideographic ++ '#' :: "\n1".toList) = "1 0".toList ∧
      "0".toList <:+: "1 0".toList := by
  obtain ⟨again, ended, padded, -, -, -, core⟩ := content_normal_form ideographic
  have here : content ideographic = "1 0".toList := by decide +kernel
  rw [here] at again ended padded core
  have front : ∀ char ∈ "\u00a0\r".toList, isBlank char = true :=
    List.all_eq_true.mp (by decide)
  have back : ∀ char ∈ "\u2028".toList, isBlank char = true := List.all_eq_true.mp (by decide)
  have part : "0".toList <:+: said ideographic := by decide +kernel
  refine ⟨(congrArg content here).trans again, (padded _ front (by decide)).1,
    (padded _ back (by decide)).2, (ended _).1, core.greatest _ part ⟨?_, ?_⟩⟩
  · rintro char ⟨⟩
    decide
  · rintro char ⟨⟩
    decide

end ByteMachine.Source
