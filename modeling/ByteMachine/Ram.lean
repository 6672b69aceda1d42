/-
**The 256 bytes of RAM.**

A byte addresses every cell, so the machine's own accesses (`Ram.get`, `Ram.set`) never fail. The
host addresses by a number of any size: beyond the last cell it reads zero and its writes are
dropped (`Ram.read`, `Ram.write`). A program is laid over the cells from address 0
(`Ram.overlay`).

Two memories are equal when they agree in every cell (`Ram.ext`); `get_set`, `get_write`,
`get_overlay` and `read_eq` say what each operation does to the cells.
-/

namespace ByteMachine

/-- The contents of RAM. -/
structure Ram where
  cells : Vector UInt8 256
  deriving DecidableEq, Repr

namespace Ram

/-- How many cells there are. -/
def size : Nat := 256

/-- Every cell is zero: the contents at boot. -/
def zero : Ram := ⟨Vector.replicate 256 0⟩

/-- The value of a cell. -/
def get (ram : Ram) (address : UInt8) : UInt8 :=
  getElem ram.cells address.toNat address.toNat_lt

/-- The memory with a new value in one cell. -/
def set (ram : Ram) (address value : UInt8) : Ram :=
  ⟨ram.cells.set address.toNat value address.toNat_lt⟩

/-- The values in the order of the addresses. -/
def toList (ram : Ram) : List UInt8 := ram.cells.toList

/-! ### Access by number -/

/-- The value at an address; zero beyond the last cell. -/
def read (ram : Ram) (address : Nat) : UInt8 := ram.cells[address]?.getD 0

/-- The memory with a new value at an address; a write beyond the last cell is dropped. -/
def write (ram : Ram) (address : Nat) (value : UInt8) : Ram :=
  ⟨ram.cells.setIfInBounds address value⟩

/-- The memory with a program laid over it from address 0; the cells past its end are kept. -/
def overlay (ram : Ram) (program : List UInt8) : Ram :=
  ⟨Vector.ofFn fun address => program[address.val]?.getD ram.cells[address]⟩

/-! ### What each operation does to the cells -/

/-- An address below 256 reads the cell that the byte names. -/
theorem read_eq (ram : Ram) (address : Nat) :
    ram.read address = if address < 256 then ram.get (UInt8.ofNat address) else 0 := by
  unfold read get
  split
  · rename_i bound
    have inside : (UInt8.ofNat address).toNat = address := by
      rw [UInt8.toNat_ofNat']
      omega
    simp only [inside, Vector.getElem?_eq_getElem bound, Option.getD_some]
  · rename_i beyond
    rw [Vector.getElem?_eq_none (Nat.le_of_not_lt beyond), Option.getD_none]

theorem read_toNat (ram : Ram) (address : UInt8) : ram.read address.toNat = ram.get address := by
  rw [read_eq, if_pos address.toNat_lt, UInt8.ofNat_toNat]

@[ext]
theorem ext {first second : Ram}
    (same : ∀ address, first.get address = second.get address) : first = second := by
  have cells : first.cells = second.cells := by
    refine Vector.ext fun index bound => ?_
    have here := same (UInt8.ofNat index)
    have inside : (UInt8.ofNat index).toNat = index := by
      rw [UInt8.toNat_ofNat']
      omega
    simpa only [get, inside] using here
  cases first
  cases second
  exact congrArg Ram.mk cells

@[simp]
theorem get_zero (address : UInt8) : zero.get address = 0 := by
  simp [zero, get]

/-- A write changes the cell it names and no other. -/
@[simp]
theorem get_set (ram : Ram) (address other value : UInt8) :
    (ram.set address value).get other = if other = address then value else ram.get other := by
  unfold get set
  rw [Vector.getElem_set]
  simp only [UInt8.toNat_inj, eq_comm]

/-- A write by number changes the cell at that address, if there is one. -/
@[simp]
theorem get_write (ram : Ram) (address : Nat) (value other : UInt8) :
    (ram.write address value).get other =
      if other.toNat = address then value else ram.get other := by
  unfold get write
  rw [Vector.getElem_setIfInBounds]
  simp only [eq_comm]

/-- A program gives the cells below its length their values and leaves the others alone. -/
@[simp]
theorem get_overlay (ram : Ram) (program : List UInt8) (address : UInt8) :
    (ram.overlay program).get address = program[address.toNat]?.getD (ram.get address) := by
  simp [get, overlay]

end Ram

end ByteMachine
