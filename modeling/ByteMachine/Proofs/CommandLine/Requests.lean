/-
**Which requests can be asked for.**

* `Count.read_toString`: a count is read from its decimal digits.
* `read_arguments`: **every request is read from its arguments** (`Request.arguments`), if it names
  a program and its limit is a count.
* `askable_of_read`: nothing else is ever read, because no step of the reading settles anything else
  (`Reading.Askable`).
-/

import ByteMachine.CommandLine.Arguments

namespace ByteMachine.CommandLine

/-- A request that can be asked for: it names a program, and its limit is a count. -/
structure Request.Askable (request : Request) : Prop where
  named : request.program ≠ ""
  bounded : ∀ most ∈ request.maxSteps, most ≤ Count.most

/-- The arguments that ask for a request. The path stands behind a separator, so that it may begin
with a dash. -/
def Request.arguments (request : Request) : List String :=
  (if request.trace then ["--trace"] else []) ++
    (request.maxSteps.elim [] fun most => ["--max-steps", toString most]) ++
    ["--", request.program]

/-! ### Counts -/

namespace Count

theorem le_ofDigitChars (digits : List Char) (total : Nat) :
    total ≤ Nat.ofDigitChars 10 digits total := by
  induction digits generalizing total with
  | nil => exact Nat.le_refl total
  | cons digit rest ih =>
    rw [Nat.ofDigitChars_cons]
    exact Nat.le_trans (by omega) (ih _)

theorem readDigits_eq {digits : List Char} {total : Nat}
    (decimal : ∀ digit ∈ digits, digit.isDigit = true)
    (bound : Nat.ofDigitChars 10 digits total ≤ most) :
    readDigits total digits = .ok (Nat.ofDigitChars 10 digits total) := by
  induction digits generalizing total with
  | nil => rfl
  | cons digit rest ih =>
    rw [Nat.ofDigitChars_cons] at bound ⊢
    rw [readDigits, if_pos (decimal digit List.mem_cons_self)]
    dsimp only
    rw [if_pos (Nat.le_trans (le_ofDigitChars rest _) bound)]
    exact ih (fun other found => decimal other (List.mem_cons_of_mem digit found)) bound

/-- **A count is read from its decimal digits.** -/
theorem read_toString {count : Nat} (bound : count ≤ most) :
    read (toString count).toList = .ok count := by
  have decimal : ∀ digit ∈ Nat.toDigits 10 count, digit.isDigit = true :=
    fun digit => Nat.isDigit_of_mem_toDigits (by decide) (by decide)
  have value : Nat.ofDigitChars 10 (Nat.toDigits 10 count) 0 = count :=
    Nat.ofDigitChars_ten_toDigits
  have digits := readDigits_eq decimal (by rwa [value])
  rw [value] at digits
  rw [Nat.toString_eq_ofList_toDigits, String.toList_ofList]
  cases written : Nat.toDigits 10 count with
  | nil => exact absurd written Nat.toDigits_ne_nil
  | cons first rest =>
    rw [written] at decimal digits
    have unsigned : first ≠ '+' := by
      rintro rfl
      exact absurd (decimal '+' List.mem_cons_self) (by decide)
    rw [read, if_neg fun signed => unsigned signed.1]
    exact digits

theorem le_of_readDigits {digits : List Char} {total count : Nat} (start : total ≤ most)
    (counted : readDigits total digits = .ok count) : count ≤ most := by
  induction digits generalizing total with
  | nil =>
    cases counted
    exact start
  | cons digit rest ih =>
    rw [readDigits] at counted
    split at counted
    · dsimp only at counted
      split at counted
      · rename_i bound
        exact ih bound counted
      · cases counted
    · cases counted

/-- What is read is a count. -/
theorem le_of_read {text : List Char} {count : Nat} (counted : read text = .ok count) :
    count ≤ most := by
  cases text with
  | nil => cases counted
  | cons first rest =>
    rw [read] at counted
    split at counted <;> exact le_of_readDigits (Nat.zero_le most) counted

end Count

namespace Arguments

variable {reading next : Reading}

/-! ### Every request is read -/

theorem shape_toString (count : Nat) : shape (toString count) = .value := by
  rw [shape, Nat.toString_eq_ofList_toDigits, String.toList_ofList]
  cases written : Nat.toDigits 10 count with
  | nil => rfl
  | cons first rest =>
    have decimal : first.isDigit = true :=
      Nat.isDigit_of_mem_toDigits (b := 10) (n := count) (by decide) (by decide)
        (written ▸ List.mem_cons_self)
    have plain : first ≠ '-' := by
      rintro rfl
      exact absurd decimal (by decide)
    split <;> simp_all

/-- The flag is noted. -/
theorem readFrom_trace (rest : List String) :
    readFrom {} ("--trace" :: rest) = readFrom { trace := true } rest := by
  have flag : shape "--trace" = .long "trace" none := by decide +kernel
  rw [readFrom, flag]
  rfl

/-- The digits of the limit are kept. -/
theorem readFrom_maxSteps (trace : Bool) (most : Nat) (rest : List String) :
    readFrom { trace } ("--max-steps" :: toString most :: rest) =
      readFrom { trace, pending := some (.maxSteps (some (toString most))) } rest := by
  have parameter : shape "--max-steps" = .long "max-steps" none := by decide +kernel
  rw [readFrom, parameter]
  show readFrom { trace, pending := some (.maxSteps none) } (toString most :: rest) = _
  rw [readFrom, shape_toString]
  rfl

/-- Behind the separator stands the path, and what is pending is settled. -/
theorem readFrom_separator {reading settled : Reading} {path : String} (named : path ≠ "")
    (waiting : reading.hasProgram = false) (settles : reading.settle = .ok settled) :
    readFrom reading ["--", path] = .ok (.run ⟨path, settled.trace, settled.maxSteps⟩) := by
  have separator : shape "--" = .separator := by decide +kernel
  rw [readFrom, separator]
  show readValues reading [path] = _
  rw [readValues, Reading.acceptProgram, waiting, settles]
  show Reading.finish { settled with pending := some (.program path) } = _
  rw [Reading.finish, Reading.settle]
  simp only [if_neg named]
  rfl

/-- **Every request is read from its arguments.** -/
theorem read_arguments {request : Request} (askable : request.Askable) :
    read request.arguments = .ok (.run request) := by
  obtain ⟨program, trace, maxSteps⟩ := request
  have flag : read (Request.arguments ⟨program, trace, maxSteps⟩) =
      readFrom { trace } ((maxSteps.elim [] fun most => ["--max-steps", toString most]) ++
        ["--", program]) := by
    cases trace with
    | false => rfl
    | true => exact readFrom_trace _
  rw [flag]
  cases maxSteps with
  | none =>
    have settles : Reading.settle { trace } = .ok { trace } := rfl
    exact readFrom_separator askable.named rfl settles
  | some most =>
    have settles : Reading.settle { trace, pending := some (.maxSteps (some (toString most))) } =
        .ok { trace, maxSteps := some most } := by
      simp only [Reading.settle, Count.read_toString (askable.bounded most rfl)]
      rfl
    show readFrom _ ("--max-steps" :: toString most :: ["--", program]) = _
    rw [readFrom_maxSteps]
    exact readFrom_separator askable.named rfl settles

/-! ### Nothing else is read -/

/-- What is settled can be asked for. -/
structure Reading.Askable (reading : Reading) : Prop where
  named : ∀ path ∈ reading.program, path ≠ ""
  bounded : ∀ most ∈ reading.maxSteps, most ≤ Count.most

/-- A command that is no run, or a reading whose settled part can be asked for. -/
def Effect.Askable : Effect → Prop
  | .command asked => ∀ request, asked ≠ .run request
  | .reading known => known.Askable

theorem exists_of_bind_eq_ok {ε α β : Type} {first : Except ε α} {rest : α → Except ε β} {last : β}
    (both : first >>= rest = .ok last) : ∃ middle, first = .ok middle ∧ rest middle = .ok last := by
  cases first with
  | error error => cases both
  | ok middle => exact ⟨middle, rfl, both⟩

theorem settle_askable (askable : reading.Askable) (settles : reading.settle = .ok next) :
    next.Askable := by
  unfold Reading.settle at settles
  split at settles
  · cases settles
    exact askable
  · split at settles
    · cases settles
    · rename_i path _ named
      cases settles
      exact ⟨fun other found => Option.some.inj found ▸ named, askable.bounded⟩
  · cases settles
  · split at settles
    · cases settles
    · split at settles
      · rename_i count counted
        cases settles
        refine ⟨askable.named, fun most found => ?_⟩
        rw [← Option.some.inj found]
        exact Count.le_of_read counted
      · cases settles

theorem acceptProgram_askable {path : String} (askable : reading.Askable)
    (accepts : reading.acceptProgram path = .ok next) : next.Askable := by
  unfold Reading.acceptProgram at accepts
  split at accepts
  · cases accepts
  · cases settled : reading.settle with
    | error error =>
      rw [settled] at accepts
      cases accepts
    | ok known =>
      rw [settled] at accepts
      cases accepts
      obtain ⟨named, bounded⟩ := settle_askable askable settled
      exact ⟨named, bounded⟩

theorem acceptValue_askable {value : String} (askable : reading.Askable)
    (accepts : reading.acceptValue value = .ok next) : next.Askable := by
  unfold Reading.acceptValue at accepts
  split at accepts
  · cases accepts
    exact ⟨askable.named, askable.bounded⟩
  · exact acceptProgram_askable askable accepts

theorem acceptParameter_askable {parameter : Parameter} {value : Option String} {effect : Effect}
    (askable : reading.Askable) (accepts : reading.acceptParameter parameter value = .ok effect) :
    effect.Askable := by
  unfold Reading.acceptParameter at accepts
  split at accepts
  · obtain ⟨settled, settles, accepts⟩ := exists_of_bind_eq_ok accepts
    obtain ⟨named, bounded⟩ := settle_askable askable settles
    have waiting : Reading.Askable { settled with pending := some (.maxSteps value) } :=
      ⟨named, bounded⟩
    dsimp only at accepts
    split at accepts
    · obtain ⟨last, settles, done⟩ := exists_of_bind_eq_ok accepts
      cases done
      exact settle_askable waiting settles
    · cases accepts
      exact waiting
  · cases accepts
  · obtain ⟨settled, settles, accepts⟩ := exists_of_bind_eq_ok accepts
    obtain ⟨named, bounded⟩ := settle_askable askable settles
    split at accepts
    · cases accepts
    · cases accepts
      exact ⟨named, bounded⟩
  · obtain ⟨_, _, done⟩ := exists_of_bind_eq_ok accepts
    cases done
    exact fun _ run => Command.noConfusion run
  · obtain ⟨_, _, done⟩ := exists_of_bind_eq_ok accepts
    cases done
    exact fun _ run => Command.noConfusion run

theorem finish_askable {request : Request} (askable : reading.Askable)
    (finishes : reading.finish = .ok (.run request)) : request.Askable := by
  obtain ⟨settled, settles, finishes⟩ := exists_of_bind_eq_ok finishes
  obtain ⟨named, bounded⟩ := settle_askable askable settles
  split at finishes
  · rename_i program found
    cases finishes
    exact ⟨named program found, bounded⟩
  · cases finishes

theorem readValues_askable {request : Request} {values : List String} (askable : reading.Askable)
    (reads : readValues reading values = .ok (.run request)) : request.Askable := by
  induction values generalizing reading with
  | nil => exact finish_askable askable reads
  | cons value rest ih =>
    obtain ⟨known, accepts, later⟩ := exists_of_bind_eq_ok reads
    exact ih (acceptProgram_askable askable accepts) later

/-- A parameter ends the reading, with something else than a run, or the reading goes on. -/
theorem after_parameter {request : Request} {parameter : Parameter} {value : Option String}
    {rest : List String} (askable : reading.Askable)
    (reads : (do
      match ← reading.acceptParameter parameter value with
      | .command command => return command
      | .reading next => readFrom next rest) = .ok (.run request)) :
    ∃ next : Reading, next.Askable ∧ readFrom next rest = .ok (.run request) := by
  obtain ⟨effect, accepts, later⟩ := exists_of_bind_eq_ok reads
  have allowed := acceptParameter_askable askable accepts
  cases effect with
  | command command =>
    cases later
    exact absurd rfl (allowed request)
  | reading next => exact ⟨next, allowed, later⟩

theorem readFrom_askable {request : Request} {arguments : List String} (askable : reading.Askable)
    (reads : readFrom reading arguments = .ok (.run request)) : request.Askable := by
  induction arguments generalizing reading with
  | nil => exact finish_askable askable reads
  | cons argument rest ih =>
    rw [readFrom] at reads
    split at reads
    · exact readValues_askable askable reads
    · obtain ⟨known, accepts, later⟩ := exists_of_bind_eq_ok reads
      exact ih (acceptValue_askable askable accepts) later
    · split at reads
      · cases reads
      · obtain ⟨next, known, later⟩ := after_parameter askable reads
        exact ih known later
    · split at reads
      · cases reads
      · obtain ⟨next, known, later⟩ := after_parameter askable reads
        exact ih known later

/-- **Whatever is read can be asked for.** -/
theorem askable_of_read {request : Request} {arguments : List String}
    (asked : read arguments = .ok (.run request)) : request.Askable := by
  have start : Reading.Askable {} := ⟨by simp, by simp⟩
  exact readFrom_askable start asked

end Arguments

end ByteMachine.CommandLine
