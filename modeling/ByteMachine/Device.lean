/-
**Devices: where printed values go.**

The machine knows one thing about its host: a value can be printed to it (`Device.print`). Three
devices are given: an array that collects the values in order, `Silent`, which drops them, and
`Console`, which writes each as a decimal line.
-/

namespace ByteMachine

universe u

/-- A host that takes printed values one at a time. -/
class Device (δ : Type u) where
  /-- The host after a value was printed to it. -/
  print : δ → UInt8 → δ

namespace Device

variable {δ : Type u} [Device δ]

/-- The host after a step that may have printed a value. -/
def accept (device : δ) : Option UInt8 → δ
  | some value => print device value
  | none => device

end Device

/-- An array collects the printed values in order. -/
instance : Device (Array UInt8) := ⟨Array.push⟩

/-- A device that drops everything. -/
structure Silent where
  deriving DecidableEq, Repr

instance : Device Silent := ⟨fun device _ => device⟩

/-- A device that writes text. -/
structure Console where
  text : String := ""
  deriving DecidableEq, Repr

/-- The line that a printed value takes: its decimal digits and a line end. -/
def Console.line (value : UInt8) : String := toString value.toNat ++ "\n"

instance : Device Console := ⟨fun console value => ⟨console.text ++ Console.line value⟩⟩

end ByteMachine
