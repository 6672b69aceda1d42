/-
**The grammar of program texts, and the parser against it.**

A text is cut at its line feeds, each piece loses its comment and the white space around the rest,
and what is left (`entries`) has to be empty or a numeral in base two (`Denotes`).

* `entries_eq_content`: the parser sees the same entries.
* `read?_eq_some_iff_isNumeral`: it reads the numerals of the grammar and no others.
* `parseLines_of_denote`, `parseLines_of_first`: entries that all denote something are read in
  order, and the first that does not is reported. One of the two is always so
  (`denote_or_first`).
* `parse_meets_grammar`: **the parser accepts its grammar and reports the first violation.**
-/

import ByteMachine.Source.Program
import Mathlib.Data.List.DropRight
import Mathlib.Data.List.Forall2
import Mathlib.Data.List.ReduceOption
import Mathlib.Data.Nat.Digits.Defs

namespace ByteMachine.Source

open Text (isBlank)

/-! ### The grammar -/

/-- The pieces without the last one, if that is empty. -/
def dropEmptyLast (cut : List (List Char)) : List (List Char) :=
  if cut.getLast? = some [] then cut.dropLast else cut

/-- What precedes the comment of a piece, without the white space around it. -/
def stripped (piece : List Char) : List Char :=
  ((piece.takeWhile (· ≠ '#')).dropWhile isBlank).rdropWhile isBlank

/-- What the pieces of a text between its line feeds say. -/
def entries (text : String) : List (List Char) :=
  (dropEmptyLast (text.toList.splitOn '\n')).map stripped

/-- The value of a binary digit. -/
def bit (digit : Char) : Nat := if digit = '1' then 1 else 0

/-- An optional plus sign and at least one binary digit, with the value of a byte. -/
inductive IsNumeral : List Char → UInt8 → Prop where
  | intro (sign digits : List Char) (byte : UInt8)
      (signed : sign = [] ∨ sign = ['+'])
      (nonempty : digits ≠ [])
      (binary : ∀ digit ∈ digits, digit = '0' ∨ digit = '1')
      (value : Nat.ofDigits 2 (digits.reverse.map bit) = byte.toNat) :
      IsNumeral (sign ++ digits) byte

/-- What an entry stands for: an empty one for nothing, a numeral for its byte. -/
inductive Denotes : List Char → Option UInt8 → Prop where
  | nothing : Denotes [] none
  | byte {entry : List Char} {byte : UInt8} : IsNumeral entry byte → Denotes entry (some byte)

/-- The first entry of a list that is not of the grammar. -/
structure FirstViolation (entries before : List (List Char)) (entry : List Char)
    (after : List (List Char)) : Prop where
  split : entries = before ++ entry :: after
  fine : ∀ earlier ∈ before, ∃ meaning, Denotes earlier meaning
  violates : ¬ ∃ meaning, Denotes entry meaning

/-! ### Pieces and their contents -/

theorem dropEmptyLast_cons (piece : List Char) {cut : List (List Char)} (more : cut ≠ []) :
    dropEmptyLast (piece :: cut) = piece :: dropEmptyLast cut := by
  unfold dropEmptyLast
  rw [List.getLast?_cons_of_ne_nil more, List.dropLast_cons_of_ne_nil more]
  split <;> rfl

/-- The lines of a text are its pieces. -/
theorem lines_eq_pieces (text : List Char) :
    lines text = dropEmptyLast (text.splitOn '\n') := by
  induction text with
  | nil => rfl
  | cons char rest ih =>
    rw [lines, List.splitOn_cons_eq_if_modifyHead, ih]
    by_cases feed : char = '\n'
    · rw [if_pos feed, if_pos (beq_iff_eq.mpr feed),
        dropEmptyLast_cons [] (List.splitOn_ne_nil '\n' rest)]
    · rw [if_neg feed, if_neg (fun same => feed (beq_iff_eq.mp same))]
      obtain ⟨piece, cut, whole⟩ := List.exists_cons_of_ne_nil (List.splitOn_ne_nil '\n' rest)
      rw [whole, List.modifyHead_cons]
      by_cases last : cut = []
      · subst last
        cases piece <;> rfl
      · rw [dropEmptyLast_cons piece last, dropEmptyLast_cons (char :: piece) last]

/-- No line holds a line feed. -/
theorem feed_not_mem_line {text line : List Char} (found : line ∈ lines text) : '\n' ∉ line := by
  induction text generalizing line with
  | nil => cases found
  | cons char rest ih =>
    rw [lines] at found
    by_cases feed : char = '\n'
    · rw [if_pos feed] at found
      rcases List.mem_cons.mp found with rfl | later
      · exact List.not_mem_nil
      · exact ih later
    · rw [if_neg feed] at found
      cases whole : lines rest with
      | nil =>
        rw [whole] at found
        obtain rfl := List.mem_singleton.mp found
        exact fun held => feed (List.mem_singleton.mp held).symm
      | cons piece more =>
        rw [whole] at found ih
        rcases List.mem_cons.mp found with rfl | later
        · intro held
          rcases List.mem_cons.mp held with same | inside
          · exact feed same.symm
          · exact ih List.mem_cons_self inside
        · exact ih (List.mem_cons_of_mem piece later)

/-- In a line only the comment ends the content. -/
theorem content_eq_stripped {line : List Char} (whole : '\n' ∉ line) :
    content line = stripped line := by
  have same : line.takeWhile (fun char => !endsContent char) = line.takeWhile (· ≠ '#') := by
    induction line with
    | nil => rfl
    | cons char rest ih =>
      have other : char ≠ '\n' := fun feed => whole (feed ▸ List.mem_cons_self)
      have ends : (!endsContent char) = decide (char ≠ '#') := by
        rw [endsContent, beq_eq_false_iff_ne.mpr other, Bool.or_false]
        by_cases comment : char = '#' <;> simp [comment]
      rw [List.takeWhile_cons, List.takeWhile_cons, ends,
        ih fun later => whole (List.mem_cons_of_mem char later)]
  unfold content stripped trim
  rw [same]
  rfl

/-- **The parser sees the entries of the grammar.** -/
theorem entries_eq_content (text : String) : entries text = (lines text.toList).map content := by
  rw [entries, ← lines_eq_pieces]
  exact List.map_congr_left fun line found => (content_eq_stripped (feed_not_mem_line found)).symm

/-! ### Numerals -/

theorem value_concat (digits : List Char) (digit : Char) :
    Numeral.value (digits ++ [digit]) = 2 * Numeral.value digits + bit digit := by
  unfold Numeral.value
  rw [List.foldl_append]
  rfl

/-- The value of digits is their value in base two. -/
theorem value_eq_ofDigits (digits : List Char) :
    Numeral.value digits = Nat.ofDigits 2 (digits.reverse.map bit) := by
  induction digits using List.reverseRecOn with
  | nil => rfl
  | append_singleton digits digit ih =>
    rw [value_concat, ih, List.reverse_concat', List.map_cons, Nat.ofDigits_cons, Nat.add_comm]

theorem isBit_iff {digit : Char} : Numeral.isBit digit = true ↔ digit = '0' ∨ digit = '1' := by
  simp [Numeral.isBit]

/-- A numeral is its digits behind a sign or behind nothing. -/
theorem exists_sign (numeral : List Char) :
    ∃ sign, (sign = [] ∨ sign = ['+']) ∧ numeral = sign ++ Numeral.unsigned numeral := by
  cases numeral with
  | nil => exact ⟨[], .inl rfl, rfl⟩
  | cons char rest =>
    by_cases plus : char = '+'
    · subst plus
      exact ⟨['+'], .inr rfl, rfl⟩
    · refine ⟨[], .inl rfl, ?_⟩
      rw [Numeral.unsigned, if_neg plus]
      rfl

/-- Digits are what is left when their sign is taken away. -/
theorem unsigned_append {sign digits : List Char} (signed : sign = [] ∨ sign = ['+'])
    (binary : ∀ digit ∈ digits, digit = '0' ∨ digit = '1') :
    Numeral.unsigned (sign ++ digits) = digits := by
  rcases signed with rfl | rfl
  · cases digits with
    | nil => rfl
    | cons digit rest =>
      have plain : digit ≠ '+' := by
        rintro rfl
        exact absurd (binary '+' List.mem_cons_self) (by decide)
      exact if_neg plain
  · rfl

/-- **The parser reads the numerals of the grammar.** -/
theorem read?_eq_some_iff_isNumeral {numeral : List Char} {byte : UInt8} :
    Numeral.read? numeral = some byte ↔ IsNumeral numeral byte := by
  rw [Numeral.read?_eq_some_iff, value_eq_ofDigits]
  constructor
  · rintro ⟨nonempty, bits, value⟩
    obtain ⟨sign, signed, whole⟩ := exists_sign numeral
    rw [whole]
    exact .intro sign _ byte signed nonempty (fun digit found => isBit_iff.mp (bits digit found))
      value
  · rintro ⟨sign, digits, _, signed, nonempty, binary, value⟩
    rw [unsigned_append signed binary]
    exact ⟨nonempty, fun digit found => isBit_iff.mpr (binary digit found), value⟩

theorem isNumeral_ne_nil {entry : List Char} {byte : UInt8} (numeral : IsNumeral entry byte) :
    entry ≠ [] := by
  rintro rfl
  cases read?_eq_some_iff_isNumeral.mpr numeral

/-! ### Reading entries in order -/

section Lines

variable {number : Nat} {line : List Char} {more : List (List Char)} {meaning : Option UInt8}

theorem parseLines_of_denotes (denotes : Denotes (content line) meaning) :
    parseLines number (line :: more) =
      (parseLines (number + 1) more).map (meaning.toList ++ ·) := by
  rw [parseLines]
  generalize content line = entry at denotes
  cases denotes with
  | nothing =>
    rw [if_pos rfl]
    cases parseLines (number + 1) more <;> rfl
  | byte numeral =>
    rw [if_neg (isNumeral_ne_nil numeral), read?_eq_some_iff_isNumeral.mpr numeral]
    rfl

theorem parseLines_of_violates (violates : ¬ ∃ meaning, Denotes (content line) meaning) :
    parseLines number (line :: more) = .error ⟨number, String.ofList (content line)⟩ := by
  rw [parseLines]
  have filled : content line ≠ [] := by
    intro empty
    rw [empty] at violates
    exact violates ⟨none, .nothing⟩
  rw [if_neg filled]
  cases read : Numeral.read? (content line) with
  | none => rfl
  | some byte =>
    exact absurd ⟨some byte, .byte (read?_eq_some_iff_isNumeral.mp read)⟩ violates

/-- **Entries of the grammar are read in order.** -/
theorem parseLines_of_denote {texts : List (List Char)} {meanings : List (Option UInt8)}
    (denote : List.Forall₂ Denotes (texts.map content) meanings) :
    parseLines number texts = .ok meanings.reduceOption := by
  induction texts generalizing number meanings with
  | nil =>
    cases denote
    rfl
  | cons line more ih =>
    obtain ⟨meaning, later, denotes, rest, rfl⟩ := List.forall₂_cons_left_iff.mp denote
    rw [parseLines_of_denotes denotes, ih rest]
    cases meaning <;> rfl

/-- **The first violation is reported**, whatever comes after it. -/
theorem parseLines_of_first {texts before after : List (List Char)} {entry : List Char}
    (first : FirstViolation (texts.map content) before entry after) :
    parseLines number texts = .error ⟨number + before.length, String.ofList entry⟩ := by
  obtain ⟨split, fine, violates⟩ := first
  induction texts generalizing number before with
  | nil => exact absurd split.symm (by simp)
  | cons line more ih =>
    rw [List.map_cons] at split
    cases before with
    | nil =>
      obtain ⟨rfl, -⟩ := List.cons.inj split
      exact parseLines_of_violates violates
    | cons earlier before =>
      obtain ⟨rfl, later⟩ := List.cons.inj split
      obtain ⟨meaning, denotes⟩ := fine (content line) List.mem_cons_self
      rw [parseLines_of_denotes denotes,
        ih later fun other found => fine other (List.mem_cons_of_mem _ found), List.length_cons,
        Nat.add_right_comm, ← Nat.add_assoc]
      rfl

end Lines

/-- Either all entries of a list denote something or there is a first that does not. -/
theorem denote_or_first (list : List (List Char)) :
    (∃ meanings, List.Forall₂ Denotes list meanings) ∨
      ∃ before entry after, FirstViolation list before entry after := by
  induction list with
  | nil => exact .inl ⟨[], .nil⟩
  | cons entry rest ih =>
    by_cases fine : ∃ meaning, Denotes entry meaning
    · rcases ih with ⟨meanings, denote⟩ | ⟨before, other, after, first⟩
      · obtain ⟨meaning, denotes⟩ := fine
        exact .inl ⟨meaning :: meanings, .cons denotes denote⟩
      · refine .inr ⟨entry :: before, other, after, ?_, ?_, first.violates⟩
        · rw [first.split]
          rfl
        · intro earlier found
          rcases List.mem_cons.mp found with rfl | inside
          · exact fine
          · exact first.fine earlier inside
    · exact .inr ⟨[], entry, rest, rfl, fun earlier found => absurd found List.not_mem_nil, fine⟩

/-! ### The parser -/

/-- One byte is read for each entry that is not empty. -/
theorem length_reduceOption {list : List (List Char)} {meanings : List (Option UInt8)}
    (denote : List.Forall₂ Denotes list meanings) :
    meanings.reduceOption.length = list.countP (· ≠ []) := by
  induction denote with
  | nil => rfl
  | cons denotes _ ih =>
    cases denotes with
    | nothing =>
      rw [List.reduceOption_cons_of_none, ih, List.countP_cons_of_neg (by simp)]
    | byte numeral =>
      rw [List.reduceOption_cons_of_some, List.length_cons, ih,
        List.countP_cons_of_pos (by simp [isNumeral_ne_nil numeral])]

section Parse

variable {text : String} {bytes : List UInt8} {error : ParseError}

theorem parse_eq_ok_iff :
    parse text = .ok bytes ↔
      ∃ meanings, List.Forall₂ Denotes (entries text) meanings ∧
        bytes = meanings.reduceOption := by
  rw [entries_eq_content]
  constructor
  · intro parsed
    rcases denote_or_first ((lines text.toList).map content) with
      ⟨meanings, denote⟩ | ⟨before, entry, after, first⟩
    · rw [parse, parseLines_of_denote denote] at parsed
      exact ⟨meanings, denote, (Except.ok.inj parsed).symm⟩
    · rw [parse, parseLines_of_first first] at parsed
      cases parsed
  · rintro ⟨meanings, denote, rfl⟩
    exact parseLines_of_denote denote

theorem parse_eq_error_iff :
    parse text = .error error ↔
      ∃ before entry after, FirstViolation (entries text) before entry after ∧
        error = ⟨before.length + 1, String.ofList entry⟩ := by
  rw [entries_eq_content]
  constructor
  · intro parsed
    rcases denote_or_first ((lines text.toList).map content) with
      ⟨meanings, denote⟩ | ⟨before, entry, after, first⟩
    · rw [parse, parseLines_of_denote denote] at parsed
      cases parsed
    · rw [parse, parseLines_of_first first, Nat.add_comm] at parsed
      exact ⟨before, entry, after, first, (Except.error.inj parsed).symm⟩
  · rintro ⟨before, entry, after, first, rfl⟩
    rw [Nat.add_comm]
    exact parseLines_of_first first

theorem length_of_parse_eq_ok (parsed : parse text = .ok bytes) :
    bytes.length = (entries text).countP (· ≠ []) := by
  obtain ⟨meanings, denote, rfl⟩ := parse_eq_ok_iff.mp parsed
  exact length_reduceOption denote

/-- What stands behind the reported line has no influence. -/
theorem parse_eq_error_of_take {other : String} (parsed : parse text = .error error)
    (same : (entries other).take error.line = (entries text).take error.line) :
    parse other = .error error := by
  obtain ⟨before, entry, after, first, rfl⟩ := parse_eq_error_iff.mp parsed
  have upTo : (entries text).take (before.length + 1) = before ++ [entry] := by
    rw [first.split, List.take_length_add_append]
    rfl
  have whole := List.take_append_drop (before.length + 1) (entries other)
  rw [same, upTo, List.append_assoc] at whole
  exact parse_eq_error_iff.mpr ⟨before, entry, _, ⟨whole.symm, first.fine, first.violates⟩, rfl⟩

end Parse

/-- **The parser accepts its grammar and reports the first violation.** A text is read exactly when
all its entries denote something, into one byte for each entry that is not empty; otherwise the
first entry that denotes nothing is reported with its number, counted from 1 over all lines, and
what stands behind it does not matter. -/
theorem parse_meets_grammar (text : String) :
    (∀ bytes, parse text = .ok bytes ↔
        ∃ meanings, List.Forall₂ Denotes (entries text) meanings ∧
          bytes = meanings.reduceOption) ∧
      (∀ bytes, parse text = .ok bytes → bytes.length = (entries text).countP (· ≠ [])) ∧
      (∀ error, parse text = .error error ↔
        ∃ before entry after, FirstViolation (entries text) before entry after ∧
          error = ⟨before.length + 1, String.ofList entry⟩) ∧
      ∀ error other, parse text = .error error →
        (entries other).take error.line = (entries text).take error.line →
          parse other = .error error :=
  ⟨fun _ => parse_eq_ok_iff, fun _ => length_of_parse_eq_ok, fun _ => parse_eq_error_iff,
    fun _ _ => parse_eq_error_of_take⟩

/-- A digit that is not binary in the third line, with and without more behind it; and three lines
with two bytes. -/
theorem parse_third_line :
    parse "+1 # one\n101\n2 # two\n3" = .error ⟨3, "2"⟩ ∧
      parse "+1\n101 \r\n 2" = .error ⟨3, "2"⟩ ∧
      (entries "+1\n\n101 # five").countP (· ≠ []) = 2 := by
  have parsed : parse "+1 # one\n101\n2 # two\n3" = .error ⟨3, "2"⟩ := by decide +kernel
  obtain ⟨-, -, -, behind⟩ := parse_meets_grammar "+1 # one\n101\n2 # two\n3"
  obtain ⟨-, bytes, -, -⟩ := parse_meets_grammar "+1\n\n101 # five"
  refine ⟨parsed, behind _ _ parsed (by decide +kernel), ?_⟩
  exact (bytes [1, 5] (by decide +kernel)).symm

end ByteMachine.Source
