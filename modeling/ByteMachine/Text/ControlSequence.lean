/-
**Text without control characters and control sequences.**

A terminal obeys a control character instead of showing it, and the escape character opens a
sequence of characters that it obeys as a whole. `visible` leaves both out of a text, one
character at a time (`Mode.step`). The characters that lay a text out (`isLayout`) are kept, even
inside a short sequence: they interrupt it, the text goes on, and the next control character takes
the sequence up again.

* `isShown_of_mem_visible`: no other control character is left.
* `visible_eq_self`: a text without control characters stays as it is.
-/

import ByteMachine.Text.CodePoints

namespace ByteMachine.Text.ControlSequence

/-! ### Classes of characters -/

/-- A control character of ASCII. -/
def isControl (char : Char) : Bool := inRanges [(0x0, 0x1f), (0x7f, 0x7f)] char

/-- A control character that lays a text out. -/
def isLayout (char : Char) : Bool := ['\t', '\n', '\x0c', '\r'].contains char

/-- A character that stands for itself outside a sequence. -/
def isShown (char : Char) : Bool := !isControl char || isLayout char

/-- The character cancels a sequence. -/
def isCancel (char : Char) : Bool := ['\x18', '\x1a'].contains char

/-- The character comes before the end of a sequence. -/
def isIntermediate (char : Char) : Bool := inRanges [(0x20, 0x2f)] char

/-- The character belongs to a number, or separates two. -/
def isParameter (char : Char) : Bool := inRanges [(0x30, 0x3b)] char

/-- The character marks a sequence as private. -/
def isPrivate (char : Char) : Bool := inRanges [(0x3c, 0x3f)] char

/-- The character ends a sequence. -/
def isFinal (char : Char) : Bool := inRanges [(0x40, 0x7e)] char

/-- A byte of the character is the string terminator. -/
def isTerminator (char : Char) : Bool := (String.utf8EncodeChar char).contains 0x9c

/-! ### Sequences -/

/-- The place inside a sequence. -/
inductive Sequence where
  /-- After the escape character. -/
  | escape
  /-- After the escape character and intermediate ones. -/
  | escapeIntermediate
  /-- In a control sequence. -/
  | control
  /-- At the start of a device control string. -/
  | device
  /-- Among the parameters of a device control string. -/
  | deviceParameters
  /-- Among the intermediate characters of a device control string. -/
  | deviceIntermediate
  /-- In a string that the terminator ends. -/
  | string
  /-- In an operating system command, which the bell ends. -/
  | command
  deriving DecidableEq, Repr

/-- The place in a text. -/
inductive Mode where
  /-- Outside a sequence. -/
  | plain
  /-- Inside a sequence. -/
  | inside (sequence : Sequence)
  /-- In text that interrupts a sequence. -/
  | interrupted (sequence : Sequence)
  deriving DecidableEq, Repr

namespace Sequence

/-- Layout characters interrupt the sequence. -/
def yields : Sequence → Bool
  | .escape | .escapeIntermediate | .control => true
  | _ => false

/-- The place after the character that follows the escape character. -/
def afterEscape (char : Char) : Mode :=
  match char with
  | '[' => .inside .control
  | ']' => .inside .command
  | 'P' => .inside .device
  | 'X' | '^' | '_' => .inside .string
  | _ =>
    if isIntermediate char then .inside .escapeIntermediate
    else if isParameter char || isPrivate char || isFinal char then .plain
    else .inside .escape

/-- The place after a character that belongs to the sequence. -/
def next (sequence : Sequence) (char : Char) : Mode :=
  match sequence with
  | .escape => afterEscape char
  | .escapeIntermediate =>
    if isParameter char || isPrivate char || isFinal char then .plain
    else .inside .escapeIntermediate
  | .control => if isFinal char then .plain else .inside .control
  | .device =>
    if isIntermediate char then .inside .deviceIntermediate
    else if isParameter char || isPrivate char then .inside .deviceParameters
    else if isFinal char then .inside .string
    else .inside .device
  | .deviceParameters =>
    if isIntermediate char then .inside .deviceIntermediate
    else if isPrivate char || isFinal char then .inside .string
    else .inside .deviceParameters
  | .deviceIntermediate =>
    if isParameter char || isPrivate char || isFinal char then .inside .string
    else .inside .deviceIntermediate
  | .string => if isTerminator char then .plain else .inside .string
  | .command => if char = '\x07' then .plain else .inside .command

end Sequence

/-! ### From character to character -/

/-- Whether a character is kept, and the place after it. -/
def Mode.step (mode : Mode) (char : Char) : Bool × Mode :=
  if char = '\x1b' then (false, .inside .escape)
  else if isCancel char then (false, .plain)
  else
    match mode with
    | .plain => (isShown char, .plain)
    | .inside sequence =>
      if sequence.yields && isLayout char then (true, .interrupted sequence)
      else (false, sequence.next char)
    | .interrupted sequence =>
      if isShown char then (true, if char.toNat < 0x80 then .interrupted sequence else .plain)
      else (false, .inside sequence)

/-- What is kept of a text that starts at a place. -/
def visibleFrom : Mode → List Char → List Char
  | _, [] => []
  | mode, char :: rest =>
    let kept := visibleFrom (mode.step char).2 rest
    if (mode.step char).1 then char :: kept else kept

/-- A text without its control characters and control sequences. -/
def visible (text : String) : String := String.ofList (visibleFrom .plain text.toList)

/-! ### What is kept -/

theorem isShown_of_step {mode : Mode} {char : Char} (kept : (mode.step char).1 = true) :
    isShown char = true := by
  unfold Mode.step at kept
  split at kept
  · simp at kept
  · split at kept
    · simp at kept
    · cases mode with
      | plain => exact kept
      | inside sequence =>
        dsimp only at kept
        split at kept
        · rename_i layout
          simp only [Bool.and_eq_true] at layout
          simp [isShown, layout.2]
        · simp at kept
      | interrupted sequence =>
        dsimp only at kept
        split at kept
        · assumption
        · simp at kept

theorem isShown_of_mem_visibleFrom {mode : Mode} {text : List Char} {char : Char}
    (member : char ∈ visibleFrom mode text) : isShown char = true := by
  induction text generalizing mode with
  | nil => simp [visibleFrom] at member
  | cons first rest hypothesis =>
    simp only [visibleFrom] at member
    split at member
    · rcases List.mem_cons.mp member with rfl | later
      · exact isShown_of_step (by assumption)
      · exact hypothesis later
    · exact hypothesis member

/-- A control character that is left lays the text out. -/
theorem isShown_of_mem_visible {text : String} {char : Char}
    (member : char ∈ (visible text).toList) : isShown char = true := by
  rw [visible, String.toList_ofList] at member
  exact isShown_of_mem_visibleFrom member

theorem step_plain {char : Char} (printed : isControl char = false) :
    Mode.plain.step char = (true, .plain) := by
  have noEscape : char ≠ '\x1b' := by rintro rfl; revert printed; decide
  have noCancel : isCancel char = false := by
    rw [Bool.eq_false_iff]
    intro cancel
    simp only [isCancel, List.contains_cons, List.contains_nil, Bool.or_false, Bool.or_eq_true,
      beq_iff_eq] at cancel
    rcases cancel with rfl | rfl <;> revert printed <;> decide
  simp [Mode.step, noEscape, noCancel, isShown, printed]

theorem visibleFrom_plain {text : List Char} (printed : ∀ char ∈ text, isControl char = false) :
    visibleFrom .plain text = text := by
  induction text with
  | nil => rfl
  | cons first rest hypothesis =>
    rw [visibleFrom, step_plain (printed first List.mem_cons_self)]
    simp [hypothesis fun char member => printed char (List.mem_cons_of_mem _ member)]

/-- A text without control characters stays as it is. -/
theorem visible_eq_self {text : String}
    (printed : ∀ char ∈ text.toList, isControl char = false) : visible text = text := by
  rw [visible, visibleFrom_plain printed, String.ofList_toList]

end ByteMachine.Text.ControlSequence
