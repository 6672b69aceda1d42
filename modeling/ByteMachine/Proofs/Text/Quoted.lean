/-
**Quoted text, read back.**

`unquoteFrom` undoes the quoting one character at a time and stops behind the closing quote. It
knows nothing of which characters are hidden: it takes every sign and every code point it meets.

* `unquoteFrom_digits`: digits are read as the number that they write, and only the closing brace
  ends them.
* `unquoteFrom_encodeChar`: **what one character is written as is read as that character**, whatever
  comes behind it.
* `unquote_quote`: so a quoted text is read as the text, and what comes behind it is left.
* `isOneLine_quote`: a quoted text stays in its line and shows no control character.
-/

import ByteMachine.Proofs.Text.Numbers
import ByteMachine.Text.Quoted

namespace ByteMachine.Text

/-- The characters that a line does not hold: controls, and what separates lines or paragraphs. -/
def breakRanges : List (Nat × Nat) := [(0x0, 0x1f), (0x7f, 0x9f), (0x2028, 0x2029)]

/-- The character is a control, or it separates lines. -/
def breaksLine (char : Char) : Bool := inRanges breakRanges char

/-- The text stays in its line and holds no control character. -/
def isOneLine (text : List Char) : Bool := text.all fun char => !breaksLine char

theorem isOneLine_append (first second : List Char) :
    isOneLine (first ++ second) = (isOneLine first && isOneLine second) := List.all_append

/-- The value of a lower-case digit. -/
def Hex.digit? (char : Char) : Option Nat :=
  (List.range 16).find? fun digit => Nat.digitChar digit = char

namespace Quoted

/-! ### The reader -/

/-- The place of a reader between two quotes. -/
inductive Place where
  | plain
  /-- Behind a backslash. -/
  | escape
  /-- Before the braces of a code point. -/
  | braces
  /-- Among the digits of a code point, whose value so far is given. -/
  | point (value : Nat)
  deriving DecidableEq, Repr

/-- The character that a backslash and a sign stand for. -/
def original? : Char → Option Char
  | '0' => some '\x00'
  | 't' => some '\t'
  | 'r' => some '\r'
  | 'n' => some '\n'
  | '\\' => some '\\'
  | '"' => some '"'
  | _ => none

/-- The text up to the closing quote, and what comes behind it. -/
def unquoteFrom : Place → List Char → Option (List Char × List Char)
  | _, [] => none
  | .plain, char :: rest =>
    if char = '"' then some ([], rest)
    else if char = '\\' then unquoteFrom .escape rest
    else (unquoteFrom .plain rest).map (Prod.map (char :: ·) id)
  | .escape, sign :: rest =>
    if sign = 'u' then unquoteFrom .braces rest
    else
      match original? sign with
      | some char => (unquoteFrom .plain rest).map (Prod.map (char :: ·) id)
      | none => none
  | .braces, char :: rest => if char = '\x7b' then unquoteFrom (.point 0) rest else none
  | .point value, char :: rest =>
    if char = '\x7d' then
      if value.isValidChar then
        (unquoteFrom .plain rest).map (Prod.map (Char.ofNat value :: ·) id)
      else none
    else
      match Hex.digit? char with
      | some digit => unquoteFrom (.point (16 * value + digit)) rest
      | none => none

/-- The text of a text in quotes, and what comes behind it. -/
def unquote : List Char → Option (List Char × List Char)
  | '"' :: rest => unquoteFrom .plain rest
  | _ => none

variable {char sign : Char}

/-! ### What a character is written as -/

/-- A character is written with a sign of its own, as its code point, or as itself. -/
theorem encodeChar_cases (char : Char) :
    (∃ sign, (char, sign) ∈ signs ∧ encodeChar char = ['\\', sign]) ∨
      encodeChar char = encodePoint char ∨
      char ≠ '"' ∧ char ≠ '\\' ∧ isHidden char = false ∧ encodeChar char = [char] := by
  unfold encodeChar
  cases listed : signs.lookup char with
  | some sign =>
    obtain ⟨before, after, table, -⟩ := List.lookup_eq_some_iff.mp listed
    exact .inl ⟨sign, by simp [table], rfl⟩
  | none =>
    by_cases hidden : isHidden char
    · exact .inr (.inl (if_pos hidden))
    · have noQuote : char ≠ '"' := by
        rintro rfl
        revert listed
        decide
      have noBackslash : char ≠ '\\' := by
        rintro rfl
        revert listed
        decide
      exact .inr (.inr ⟨noQuote, noBackslash, Bool.eq_false_iff.mpr hidden, if_neg hidden⟩)

/-! ### The reader undoes the quoting -/

/-- The six signs stand for six characters, and the sign of a code point is none of them. -/
theorem original?_of_mem_signs (found : (char, sign) ∈ signs) :
    sign ≠ 'u' ∧ original? sign = some char := by
  have table : ∀ pair ∈ signs, pair.2 ≠ 'u' ∧ original? pair.2 = some pair.1 := by decide
  exact table (char, sign) found

/-- Digits are read as the number that they write. -/
theorem unquoteFrom_digits (value : Nat) (rest : List Char) :
    unquoteFrom (.point 0) (Nat.toDigits 16 value ++ rest) = unquoteFrom (.point value) rest := by
  have digits : ∀ digit < 16, Nat.digitChar digit ≠ '\x7d' ∧
      Hex.digit? (Nat.digitChar digit) = some digit := by decide
  have step : ∀ before digit, digit < 16 → ∀ rest,
      unquoteFrom (.point before) (Nat.digitChar digit :: rest) =
        unquoteFrom (.point (16 * before + digit)) rest := by
    intro before digit small rest
    obtain ⟨inside, read⟩ := digits digit small
    rw [unquoteFrom, if_neg inside, read]
  induction value using Nat.strongRecOn generalizing rest with
  | ind value ih =>
    by_cases small : value < 16
    · rw [Nat.toDigits_of_lt_base small, List.singleton_append, step 0 value small, Nat.mul_zero,
        Nat.zero_add]
    · have large := Nat.le_of_not_lt small
      rw [Nat.toDigits_of_base_le (by decide) large, List.append_assoc, List.singleton_append,
        ih (value / 16) (by omega), step _ _ (Nat.mod_lt _ (by decide)), Nat.div_add_mod]

theorem unquoteFrom_encodePoint (char : Char) (rest : List Char) :
    unquoteFrom .plain (encodePoint char ++ rest) =
      (unquoteFrom .plain rest).map (Prod.map (char :: ·) id) := by
  have opened : ∀ behind, unquoteFrom .plain ('\\' :: 'u' :: '\x7b' :: behind) =
      unquoteFrom (.point 0) behind := by
    intro behind
    simp [unquoteFrom]
  have written : encodePoint char ++ rest =
      '\\' :: 'u' :: '\x7b' :: (Nat.toDigits 16 char.toNat ++ '\x7d' :: rest) := by
    simp [encodePoint, Hex.number]
  have valid : char.toNat.isValidChar := char.valid
  rw [written, opened, unquoteFrom_digits, unquoteFrom, if_pos rfl, if_pos valid,
    Char.ofNat_toNat]

/-- **What a character is written as is read as that character.** -/
theorem unquoteFrom_encodeChar (char : Char) (rest : List Char) :
    unquoteFrom .plain (encodeChar char ++ rest) =
      (unquoteFrom .plain rest).map (Prod.map (char :: ·) id) := by
  obtain ⟨sign, listed, written⟩ | written | ⟨noQuote, noBackslash, -, written⟩ :=
    encodeChar_cases char
  · obtain ⟨noPoint, stands⟩ := original?_of_mem_signs listed
    simp [written, unquoteFrom, noPoint, stands]
  · rw [written, unquoteFrom_encodePoint]
  · simp [written, unquoteFrom, noQuote, noBackslash]

theorem unquoteFrom_encode (text rest : List Char) :
    unquoteFrom .plain (encode text ++ '"' :: rest) = some (text, rest) := by
  induction text with
  | nil => rfl
  | cons char text ih =>
    rw [encode, List.flatMap_cons, List.append_assoc, unquoteFrom_encodeChar, ← encode, ih]
    rfl

/-- **A quoted text is read as the text**, and what comes behind it is left. -/
theorem unquote_quote (text : String) (rest : List Char) :
    unquote ((quote text).toList ++ rest) = some (text.toList, rest) := by
  have written : (quote text).toList ++ rest = '"' :: (encode text.toList ++ '"' :: rest) := by
    simp [quote]
  rw [written, unquote, unquoteFrom_encode]

/-! ### Quoted text stays in its line -/

/-- What breaks a line has no printed form. -/
theorem isHidden_of_breaksLine (breaks : breaksLine char = true) : isHidden char = true := by
  have covered : ∀ range ∈ breakRanges, ∃ wider ∈ unprintableRanges,
      wider.1 ≤ range.1 ∧ range.2 ≤ wider.2 := by decide +kernel
  obtain ⟨range, found, least, most⟩ := inRanges_iff.mp breaks
  obtain ⟨wider, listed, below, above⟩ := covered range found
  have unprintable : isUnprintable char = true :=
    inRanges_iff.mpr ⟨wider, listed, Nat.le_trans below least, Nat.le_trans most above⟩
  rw [isHidden, unprintable, Bool.or_true]

theorem isOneLine_encodePoint (char : Char) : isOneLine (encodePoint char) = true := by
  have digits : isOneLine (Nat.toDigits 16 char.toNat) = true :=
    all_toDigits (by decide) (by decide) char.toNat
  rw [encodePoint, Hex.number, String.toList_ofList, isOneLine_append, isOneLine_append, digits]
  decide

theorem isOneLine_encodeChar (char : Char) : isOneLine (encodeChar char) = true := by
  have table : signs.all (fun pair => isOneLine ['\\', pair.2]) = true := by decide
  obtain ⟨sign, listed, written⟩ | written | ⟨-, -, shown, written⟩ := encodeChar_cases char
  · rw [written]
    exact List.all_eq_true.mp table (char, sign) listed
  · rw [written, isOneLine_encodePoint]
  · have kept : breaksLine char = false := by
      rw [← Bool.not_eq_true]
      intro breaks
      rw [isHidden_of_breaksLine breaks] at shown
      cases shown
    rw [written, isOneLine, List.all_cons, kept]
    rfl

/-- **A quoted text stays in its line** and shows no control character. -/
theorem isOneLine_quote (text : String) : isOneLine (quote text).toList = true := by
  have inside : isOneLine (encode text.toList) = true := by
    rw [isOneLine, encode, List.all_flatMap, List.all_eq_true]
    exact fun char _ => isOneLine_encodeChar char
  have written : (quote text).toList = ['"'] ++ encode text.toList ++ ['"'] :=
    String.toList_ofList
  rw [written, isOneLine_append, isOneLine_append, inside]
  decide

end Quoted

end ByteMachine.Text
