/-
**The message of a parse error loses nothing.**

`ParseError.ofMessage?` reads a message: the number of the line up to the colon, then the text in
its quotes, then the complaint.

* `ofMessage?_message`: **a message is read as the error that it is about**, whatever the text of
  that error is.
* `isOneLine_message`: a message is one line and shows no control character.
* `parse_of_parse_eq_error`: **the text of an error is an error by itself.** It is the content of a
  line, so it holds no line feed, and its own content is all of it.
* `message_lossless`: the three together.
-/

import ByteMachine.Proofs.Source.NormalForm
import ByteMachine.Proofs.Source.Pieces
import ByteMachine.Proofs.Text.Quoted

namespace ByteMachine.Source

open Text (isOneLine isOneLine_append)
open Text.Quoted (unquote unquote_quote quote isOneLine_quote)

/-- The error that a message is about. -/
def ParseError.ofMessage? (message : String) : Option ParseError := do
  let numbered ← message.toList.dropPrefix? "line ".toList
  let quoted ← (numbered.dropWhile Char.isDigit).dropPrefix? ": ".toList
  let (text, behind) ← unquote quoted
  guard (behind = " is not a binary byte".toList)
  return ⟨Nat.ofDigitChars 10 (numbered.takeWhile Char.isDigit) 0, String.ofList text⟩

variable {error : ParseError} {text : String}

/-! ### Reading a message -/

theorem toList_message (error : ParseError) :
    error.message.toList = "line ".toList ++ ((toString error.line).toList ++ (": ".toList ++
      ((quote error.text).toList ++ " is not a binary byte".toList))) := by
  simp only [ParseError.message, String.toList_append, List.append_assoc]

/-- Digits in front of the colon are the number, and all of it. -/
theorem takeWhile_toString (number : Nat) (rest : List Char) :
    ((toString number).toList ++ (": ".toList ++ rest)).takeWhile Char.isDigit =
        (toString number).toList ∧
      ((toString number).toList ++ (": ".toList ++ rest)).dropWhile Char.isDigit =
        ": ".toList ++ rest := by
  have digits : ∀ char ∈ (toString number).toList, char.isDigit = true :=
    fun char => Text.isDigit_of_mem_toString
  rw [List.takeWhile_append_of_pos digits, List.dropWhile_append_of_pos digits]
  exact ⟨List.append_nil _, rfl⟩

/-- **A message is read as the error that it is about.** -/
theorem ofMessage?_message (error : ParseError) :
    ParseError.ofMessage? error.message = some error := by
  have prefixed : ∀ front rest : List Char, (front ++ rest).dropPrefix? front = some rest :=
    fun front rest => List.dropPrefix?_eq_some_iff.mpr ⟨front, rfl, BEq.rfl⟩
  obtain ⟨number, behind⟩ := takeWhile_toString error.line
    ((quote error.text).toList ++ " is not a binary byte".toList)
  rw [ParseError.ofMessage?, toList_message, prefixed]
  simp only [Option.bind_eq_bind, Option.bind_some, number, behind, prefixed, unquote_quote,
    Text.ofDigitChars_toString, String.ofList_toList]
  rfl

/-- **A message is one line**, without control characters. -/
theorem isOneLine_message (error : ParseError) : isOneLine error.message.toList = true := by
  have digits : isOneLine (toString error.line).toList = true := by
    rw [Nat.toString_eq_ofList_toDigits, String.toList_ofList]
    exact Text.all_toDigits (by decide) (by decide) error.line
  rw [toList_message, isOneLine_append, isOneLine_append, isOneLine_append, isOneLine_append,
    digits, isOneLine_quote]
  decide

/-! ### Parsing what was reported -/

/-- **The text of an error is an error by itself**, in its first line. -/
theorem parse_of_parse_eq_error (failed : parse text = .error error) :
    parse error.text = .error ⟨1, error.text⟩ := by
  obtain ⟨before, entry, after, first, rfl⟩ := parse_eq_error_iff.mp failed
  have reported : entry ∈ entries text := by
    rw [first.split]
    exact List.mem_append_right before List.mem_cons_self
  rw [entries_eq_content] at reported
  obtain ⟨line, -, rfl⟩ := List.mem_map.mp reported
  have violates : ¬ ∃ meaning, Denotes (content (content line)) meaning := by
    rw [content_content]
    exact first.violates
  show parse (String.ofList (content line)) = .error ⟨1, String.ofList (content line)⟩
  rw [parse_eq_parseLines_pieces, String.toList_ofList,
    pieces_of_not_mem (feed_not_mem_content line), parseLines_of_violates violates,
    content_content]

/-- **A message loses nothing.** It is read as the error that it is about, so no other error has it;
it is one line without control characters; and the text read from the message of an error that the
parser found is found again, in line 1. -/
theorem message_lossless (error : ParseError) :
    ParseError.ofMessage? error.message = some error ∧
      (∀ other : ParseError, other.message = error.message → other = error) ∧
      isOneLine error.message.toList = true ∧
      ∀ text, parse text = .error error →
        (ParseError.ofMessage? error.message).map (fun read => parse read.text) =
          some (.error ⟨1, error.text⟩) := by
  refine ⟨ofMessage?_message error, fun other same => ?_, isOneLine_message error,
    fun text failed => ?_⟩
  · have read := ofMessage?_message other
    rw [same, ofMessage?_message error] at read
    exact (Option.some.inj read).symm
  · rw [ofMessage?_message, Option.map_some, parse_of_parse_eq_error failed]

/-- An accent over a quote, a bell between backslashes, and what looks like an escape. -/
def accented : String := "\n1 \"\u0301\\\u0007\\\\u\x7b41\x7d # two\r\n"

theorem accented_lossless :
    parse accented = .error ⟨2, "1 \"\u0301\\\u0007\\\\u\x7b41\x7d"⟩ ∧
      ParseError.message ⟨2, "1 \"\u0301\\\u0007\\\\u\x7b41\x7d"⟩ =
        "line 2: \"1 \\\"\\u\x7b301\x7d\\\\\\u\x7b7\x7d\\\\\\\\u\x7b41\x7d\" is not a binary byte" ∧
      (ParseError.ofMessage? (ParseError.message ⟨2, "1 \"\u0301\\\u0007\\\\u\x7b41\x7d"⟩)).map
          (fun read => parse read.text) =
        some (.error ⟨1, "1 \"\u0301\\\u0007\\\\u\x7b41\x7d"⟩) := by
  have failed : parse accented = .error ⟨2, "1 \"\u0301\\\u0007\\\\u\x7b41\x7d"⟩ := by
    decide +kernel
  obtain ⟨-, -, -, again⟩ := message_lossless ⟨2, "1 \"\u0301\\\u0007\\\\u\x7b41\x7d"⟩
  exact ⟨failed, by decide +kernel, again accented failed⟩

end ByteMachine.Source
