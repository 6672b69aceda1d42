/-
**What a setting of the verbosity comes to.**

* `chosen?_eq_some`, `chosen?_eq_none_iff`: **the directive that decides** holds for the program,
  and no other one that does has a longer scope. There is one unless none holds.
* `ofSetting_name`: **a name alone is the verbosity that it stands for.** A name has letters only
  (`letters_of_ofName?`), so it is one directive, and nothing around it is trimmed.
-/

import ByteMachine.CommandLine.Setting
import ByteMachine.Proofs.Source.NormalForm

namespace ByteMachine.CommandLine

open Source (trim trim_of_clean)
open Text (isBlank blankRanges inRanges_iff)

/-! ### The directive that decides -/

namespace Directive

variable {directives : List Directive} {directive : Directive}

theorem chosen?_eq_none_iff :
    chosen? directives = none ↔ ∀ directive ∈ directives, directive.covers = false := by
  induction directives with
  | nil => simp [chosen?]
  | cons first rest ih =>
    rw [List.forall_mem_cons, chosen?]
    cases later : chosen? rest with
    | none =>
      have silent := ih.mp later
      by_cases holds : first.covers = true
      · simp [holds]
      · simpa [holds] using silent
    | some later =>
      have holds : ¬ ∀ directive ∈ rest, directive.covers = false := by
        intro none
        rw [ih.mpr none] at later
        cases later
      simp only [holds, and_false, iff_false]
      split <;> simp

/-- **The directive that decides** is one of those with the longest scope that hold. -/
theorem chosen?_eq_some (chosen : chosen? directives = some directive) :
    directive ∈ directives ∧ directive.covers = true ∧
      ∀ other ∈ directives, other.covers = true →
        other.scope.length ≤ directive.scope.length := by
  induction directives generalizing directive with
  | nil => cases chosen
  | cons first rest ih =>
    rw [chosen?] at chosen
    rw [List.forall_mem_cons]
    cases later : chosen? rest with
    | none =>
      have silent := chosen?_eq_none_iff.mp later
      simp only [later] at chosen
      split at chosen
      · rename_i holds
        obtain rfl := Option.some.inj chosen
        refine ⟨List.mem_cons_self, holds, fun _ => Nat.le_refl _, fun other found covers => ?_⟩
        rw [silent other found] at covers
        cases covers
      · cases chosen
    | some last =>
      obtain ⟨member, holds, longest⟩ := ih later
      simp only [later] at chosen
      split at chosen
      · rename_i longer
        obtain rfl := Option.some.inj chosen
        refine ⟨List.mem_cons_self, longer.1, fun _ => Nat.le_refl _, fun other found covers => ?_⟩
        exact Nat.le_of_lt (Nat.lt_of_le_of_lt (longest other found covers) longer.2)
      · rename_i shorter
        obtain rfl := Option.some.inj chosen
        refine ⟨List.mem_cons_of_mem first member, holds, fun covers => ?_, longest⟩
        exact Nat.le_of_not_lt fun longer => shorter ⟨covers, longer⟩

end Directive

/-! ### A name alone -/

section Name

variable {char : Char} {name : String} {verbosity : Verbosity}

theorem isAlpha_iff :
    char.isAlpha = true ↔
      65 ≤ char.toNat ∧ char.toNat ≤ 90 ∨ 97 ≤ char.toNat ∧ char.toNat ≤ 122 := by
  unfold Char.isAlpha Char.isUpper Char.isLower
  simp only [Bool.or_eq_true, Bool.and_eq_true, decide_eq_true_eq, UInt32.le_iff_toNat_le,
    ge_iff_le]
  exact Iff.rfl

/-- A letter stays a letter in either case. -/
theorem isAlpha_of_toLower (lower : char.toLower.isLower = true) : char.isAlpha = true := by
  unfold Char.toLower at lower
  split at lower
  · rename_i upper
    exact Bool.or_eq_true_iff.mpr (.inl (decide_eq_true upper))
  · exact Bool.or_eq_true_iff.mpr (.inr lower)

theorem isBlank_of_isAlpha (letter : char.isAlpha = true) : isBlank char = false := by
  have apart : ∀ range ∈ blankRanges, range.2 < 65 ∨ 122 < range.1 := by decide
  rw [← Bool.not_eq_true]
  intro blank
  obtain ⟨range, found, least, most⟩ := inRanges_iff.mp blank
  have place := isAlpha_iff.mp letter
  have beside := apart range found
  omega

/-- The names are words. -/
theorem letters_of_ofName? (named : Verbosity.ofName? name = some verbosity) :
    name.toList ≠ [] ∧ ∀ char ∈ name.toList, char.isAlpha = true := by
  have words : ∀ pair ∈ Verbosity.names, pair.1.toList ≠ [] ∧
      pair.1.toList.all Char.isLower = true := by decide
  obtain ⟨before, after, table, -⟩ := List.lookup_eq_some_iff.mp named
  obtain ⟨filled, letters⟩ := words (name.toLower, verbosity) (by simp [table])
  unfold String.toLower at filled letters
  rw [String.toList_map] at filled letters
  refine ⟨fun empty => filled (by rw [empty]; rfl), fun char found => ?_⟩
  exact isAlpha_of_toLower (List.all_eq_true.mp letters _ (List.mem_map_of_mem found))

/-- A sign that is no letter is in no name. -/
theorem not_mem_of_ofName? {sign : Char} (named : Verbosity.ofName? name = some verbosity)
    (other : sign.isAlpha = false) : sign ∉ name.toList := by
  intro found
  rw [(letters_of_ofName? named).2 sign found] at other
  cases other

theorem trim_of_ofName? (named : Verbosity.ofName? name = some verbosity) :
    trim name.toList = name.toList := by
  have letters := (letters_of_ofName? named).2
  refine trim_of_clean ⟨fun char found => ?_, fun char found => ?_⟩
  · exact isBlank_of_isAlpha (letters char (List.mem_of_mem_head? found))
  · exact isBlank_of_isAlpha (letters char (List.mem_of_mem_getLast? found))

/-- A name is a directive without a scope. -/
theorem read?_of_ofName? (named : Verbosity.ofName? name = some verbosity) :
    Directive.read? name.toList = some ⟨[], verbosity⟩ := by
  have uncut := List.splitOn_eq_singleton (not_mem_of_ofName? named (by decide : Char.isAlpha '=' = false))
  obtain ⟨first, rest, word⟩ := List.exists_cons_of_ne_nil (letters_of_ofName? named).1
  rw [Directive.read?, trim_of_ofName? named, uncut, word]
  -- With a first letter the name is not the empty directive.
  dsimp only
  rw [← word, String.ofList_toList, named]

/-- **A name alone is the verbosity that it stands for.** -/
theorem ofSetting_name (named : Verbosity.ofName? name = some verbosity) :
    Verbosity.ofSetting (some name) = verbosity := by
  have whole : Directive.readAll name.toList = [⟨[], verbosity⟩] := by
    rw [Directive.readAll, List.splitOn_eq_singleton (not_mem_of_ofName? named (by decide))]
    dsimp only
    rw [List.splitOn_eq_singleton (not_mem_of_ofName? named (by decide)), List.filterMap_cons,
      read?_of_ofName? named, List.filterMap_nil]
  rw [Verbosity.ofSetting, whole]
  rfl

/-- Case does not matter, the longest scope decides, and an empty setting leaves the errors. -/
example : Verbosity.ofSetting (some "Warn") = .upTo .warn ∧
    Verbosity.ofSetting (some "debug, ls8=off,other=trace") = .off ∧
    Verbosity.ofSetting (some "") = .upTo .error := by decide +kernel

end Name

end ByteMachine.CommandLine
