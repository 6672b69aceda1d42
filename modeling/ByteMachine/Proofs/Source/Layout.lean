/-
**Layout never changes what a program means.**

The layout of a text is changed by carriage returns in front of all its line feeds, by white space
at the start or the end of a line, and by comments at the end of a line (`Edit`). All of them put
something into one piece of the text or into several.

* `map_content_inserted`: what is put in changes no content if it does not change that of the piece
  it is put into.
* `map_content_padded`: it does not at the end of a line, if it is white space.
* `parse_of_edit`: **no edit changes what is read**, the bytes or the error with its line and text.
* `layout_never_matters`: nor does any combination of edits, by induction on them.
-/

import ByteMachine.Proofs.Source.Content
import ByteMachine.Proofs.Source.Pieces
import Mathlib.Logic.Relation

namespace ByteMachine.Source

open Text (isBlank)

/-! ### Edits -/

/-- White space in which no line ends. -/
structure Padding (text : String) : Prop where
  blank : ∀ char ∈ text.toList, isBlank char = true
  whole : '\n' ∉ text.toList

/-- A line ends in front of this text: it is empty or begins with a line feed. A carriage return
right in front of the line feed may count as a part of it. -/
def EndsLine (text : String) : Prop :=
  text = "" ∨ ∃ later, text = "\n" ++ later ∨ text = "\r\n" ++ later

/-- The text with a carriage return in front of every line feed. -/
def withReturns (text : List Char) : List Char :=
  text.flatMap fun char => if char = '\n' then ['\r', '\n'] else [char]

/-- **A change of a text's layout.** -/
inductive Edit : String → String → Prop where
  | returns (text : String) : Edit text (.ofList (withReturns text.toList))
  | indented {above padding below : String} : StartsLine above → Padding padding →
      Edit (above ++ below) (above ++ padding ++ below)
  | padded {before padding behind : String} : EndsLine behind → Padding padding →
      Edit (before ++ behind) (before ++ padding ++ behind)
  | remarked {before remark behind : String} : EndsLine behind → '\n' ∉ remark.toList →
      Edit (before ++ behind) (before ++ ("#" ++ remark) ++ behind)

/-! ### The end of a line -/

variable {before inserted behind : List Char} {text other : String}

theorem blank_of_mem_return : ∀ char ∈ ['\r'], isBlank char = true := by
  intro char held
  rw [List.mem_singleton.mp held]
  decide

/-- Nothing is left of a line in front of its line feed. -/
theorem eq_nil_of_feed {rest right : List Char}
    (found : (pieces ('\n' :: rest)).head? = some right) : right = [] := by
  rw [pieces_cons_feed] at found
  exact (Option.some.inj found).symm

/-- What is left of a line at its end is white space. -/
theorem blank_of_endsLine (ends : EndsLine text) {right : List Char}
    (found : (pieces text.toList).head? = some right) : ∀ char ∈ right, isBlank char = true := by
  rcases ends with rfl | ⟨later, rfl | rfl⟩
  · obtain rfl : [] = right := Option.some.inj found
    simp
  · have begins : ("\n" ++ later).toList = '\n' :: later.toList := by simp
    rw [begins] at found
    simp [eq_nil_of_feed found]
  · have begins : ("\r\n" ++ later).toList = ['\r'] ++ '\n' :: later.toList := by simp
    rw [begins, pieces_append_feed] at found
    obtain rfl : ['\r'] = right := Option.some.inj found
    exact blank_of_mem_return

/-! ### Contents -/

/-- **What is put in changes no content**, if it does not change that of its piece. -/
theorem map_content_inserted (whole : '\n' ∉ inserted)
    (same : ∀ left right, (pieces before).getLast? = some left →
      (pieces behind).head? = some right →
        content (left ++ inserted ++ right) = content (left ++ right)) :
    (pieces (before ++ inserted ++ behind)).map content =
      (pieces (before ++ behind)).map content := by
  obtain ⟨right, later, begins⟩ := List.exists_cons_of_ne_nil (pieces_ne_nil behind)
  obtain ⟨earlier, left, ends⟩ :=
    (List.eq_nil_or_concat' (pieces before)).resolve_left (pieces_ne_nil before)
  have extended : pieces (before ++ inserted) = earlier ++ [left ++ inserted] :=
    pieces_append ends (pieces_of_not_mem whole)
  have here := same left right (by rw [ends, List.getLast?_concat]) (by rw [begins]; rfl)
  rw [pieces_append extended begins, pieces_append ends begins, List.map_append, List.map_append,
    List.map_cons, List.map_cons, here]

/-- **White space at the end of a line changes no content.** -/
theorem map_content_padded (blank : ∀ char ∈ inserted, isBlank char = true)
    (whole : '\n' ∉ inserted)
    (rest : ∀ right, (pieces behind).head? = some right → ∀ char ∈ right, isBlank char = true) :
    (pieces (before ++ inserted ++ behind)).map content =
      (pieces (before ++ behind)).map content := by
  apply map_content_inserted whole
  intro left right _ found
  rw [content_append_blank _ (rest right found), content_append_blank _ blank,
    content_append_blank _ (rest right found)]

/-- Each carriage return is white space at the end of its line. -/
theorem map_content_withReturns (before text : List Char) :
    (pieces (before ++ withReturns text)).map content = (pieces (before ++ text)).map content := by
  induction text generalizing before with
  | nil => rfl
  | cons char rest ih =>
    by_cases feed : char = '\n'
    · subst feed
      have put : withReturns ('\n' :: rest) = ['\r', '\n'] ++ withReturns rest := rfl
      have padded : (pieces (before ++ ['\r'] ++ '\n' :: rest)).map content =
          (pieces (before ++ '\n' :: rest)).map content := by
        apply map_content_padded blank_of_mem_return (by decide)
        intro right found
        simp [eq_nil_of_feed found]
      rw [put, ← List.append_assoc, ih, ← padded]
      simp only [List.append_assoc, List.cons_append, List.nil_append]
    · have kept : withReturns (char :: rest) = [char] ++ withReturns rest := by
        rw [withReturns, List.flatMap_cons, if_neg feed]
        rfl
      rw [kept, ← List.append_assoc, ih, List.append_assoc]
      rfl

/-! ### Texts -/

/-- **No edit changes what is read.** -/
theorem parse_of_edit (edit : Edit text other) : parse other = parse text := by
  apply parse_congr
  cases edit with
  | returns => simpa using map_content_withReturns [] text.toList
  | indented starts padding =>
    simp only [String.toList_append]
    apply map_content_inserted padding.whole
    intro left right found _
    obtain rfl : [] = left :=
      Option.some.inj ((getLast?_pieces_of_startsLine starts).symm.trans found)
    exact content_blank_append padding.blank padding.whole right
  | padded ends padding =>
    simp only [String.toList_append]
    exact map_content_padded padding.blank padding.whole fun _ found => blank_of_endsLine ends found
  | @remarked _ remark _ ends whole =>
    simp only [String.toList_append]
    have kept : '\n' ∉ "#".toList ++ remark.toList := by
      rw [List.mem_append, not_or]
      exact ⟨by decide, whole⟩
    apply map_content_inserted kept
    intro left right _ found
    rw [content_append_blank _ (blank_of_endsLine ends found),
      content_append_blank _ (blank_of_endsLine ends found)]
    exact content_append_of_ends left (by decide) remark.toList

/-- **Layout never changes what a program means.** Any number of edits, in any order and at any
lines, leave what is read as it is: the bytes, or the error with its line and its text. -/
theorem layout_never_matters (edits : Relation.ReflTransGen Edit text other) :
    parse other = parse text := by
  induction edits with
  | refl => rfl
  | tail _ edit ih => rw [parse_of_edit edit, ih]

/-- Returns in front of the line feeds, a comment in front of the first of these returns, and two
blanks of Unicode at the start of the second line. -/
theorem ten_edited_reads_alike :
    Relation.ReflTransGen Edit "10\n2" "10#ten\r\n\u2028\u00a02" ∧
      parse "10#ten\r\n\u2028\u00a02" = .error ⟨2, "2"⟩ := by
  have returns : Edit "10\n2" "10\r\n2" := .returns "10\n2"
  have remarked : Edit "10\r\n2" "10#ten\r\n2" :=
    @Edit.remarked "10" "ten" "\r\n2" (.inr ⟨"2", .inr rfl⟩) (by decide)
  have padding : Padding "\u2028\u00a0" := by
    refine ⟨fun char held => ?_, by decide⟩
    rcases List.mem_pair.mp held with rfl | rfl
    · decide
    · decide
  have indented : Edit "10#ten\r\n2" "10#ten\r\n\u2028\u00a02" :=
    @Edit.indented "10#ten\r\n" "\u2028\u00a0" "2" (.inr ⟨"10#ten\r", rfl⟩) padding
  have edits := ((Relation.ReflTransGen.single returns).tail remarked).tail indented
  refine ⟨edits, ?_⟩
  rw [layout_never_matters edits]
  decide +kernel

end ByteMachine.Source
