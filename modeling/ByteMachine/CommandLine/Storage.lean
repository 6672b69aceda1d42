/-
**Where a session finds its files.**

* `AccessError` is why the bytes at a path cannot be had; each kind has a number of its own
  (`AccessError.code_injective`).
* `Storage` is a tree of directories and files. `Storage.read` follows a path name by name, from
  the root or from the working directory, and one dot or two lead to where it stands or one step
  up (`Place.enter`).
-/

namespace ByteMachine.CommandLine

/-! ### Why there are no bytes -/

/-- Why the bytes at a path cannot be had. -/
inductive AccessError where
  | missing
  | denied
  /-- The path goes on behind a file. -/
  | notDirectory
  | directory
  /-- A name on the path, or the whole of it, is too long. -/
  | nameTooLong
  deriving DecidableEq, Repr

namespace AccessError

/-- All kinds of access errors. -/
def all : List AccessError := [.missing, .denied, .notDirectory, .directory, .nameTooLong]

/-- The number of an access error. -/
def code : AccessError → Nat
  | .missing => 2
  | .denied => 13
  | .notDirectory => 20
  | .directory => 21
  | .nameTooLong => 36

/-- What an access error says. -/
def text : AccessError → String
  | .missing => "No such file or directory"
  | .denied => "Permission denied"
  | .notDirectory => "Not a directory"
  | .directory => "Is a directory"
  | .nameTooLong => "File name too long"

/-- The wording of an access error, with its number. -/
def message (error : AccessError) : String := s!"{error.text} (os error {error.code})"

/-- The access error with a number. -/
def ofCode? (code : Nat) : Option AccessError := all.find? (·.code == code)

theorem ofCode?_code (error : AccessError) : ofCode? error.code = some error := by
  cases error <;> decide

theorem code_injective {first second : AccessError} (equal : first.code = second.code) :
    first = second :=
  Option.some.inj (by rw [← ofCode?_code first, ← ofCode?_code second, equal])

end AccessError

/-! ### Directories and files -/

/-- What a name stands for. -/
inductive Entry where
  /-- A file with its bytes. -/
  | file (bytes : ByteArray)
  /-- A directory with its entries, by name. -/
  | directory (entries : List (String × Entry))

/-- An entry, together with the directories above it. -/
structure Place where
  entry : Entry
  /-- The directories above it, the nearest first. -/
  above : List Entry

namespace Place

/-- The largest size of a name, in bytes. -/
def longestName : Nat := 255

/-- The place one step up; the root is its own parent. -/
def parent (place : Place) : Place :=
  match place.above with
  | [] => place
  | nearest :: rest => ⟨nearest, rest⟩

/-- The place that a name leads to. -/
def enter (place : Place) (name : String) : Except AccessError Place :=
  match place.entry with
  | .file _ => .error .notDirectory
  | .directory entries =>
    if name = "" ∨ name = "." then .ok place
    else if name = ".." then .ok place.parent
    else if longestName < name.utf8ByteSize then .error .nameTooLong
    else
      match entries.lookup name with
      | none => .error .missing
      | some entry => .ok ⟨entry, place.entry :: place.above⟩

/-- The place that names lead to, one after the other. -/
def follow (place : Place) (names : List String) : Except AccessError Place :=
  names.foldlM enter place

end Place

/-- The bytes of a file. -/
def Entry.read : Entry → Except AccessError ByteArray
  | .file bytes => .ok bytes
  | .directory _ => .error .directory

/-- A tree of directories and files. -/
structure Storage where
  entries : List (String × Entry)
  /-- The names that lead from the root to the working directory. -/
  working : List String

namespace Storage

/-- The largest size of a path, in bytes. -/
def longestPath : Nat := 4095

/-- The root. -/
def root (storage : Storage) : Place := ⟨.directory storage.entries, []⟩

/-- The names that a path leads along from the root. -/
def names (storage : Storage) (path : String) : List String :=
  if path.startsWith "/" then path.splitOn "/" else storage.working ++ path.splitOn "/"

/-- The bytes at a path. -/
def read (storage : Storage) (path : String) : Except AccessError ByteArray :=
  if path = "" then .error .missing
  else if longestPath < path.utf8ByteSize then .error .nameTooLong
  else storage.root.follow (storage.names path) >>= fun place => place.entry.read

end Storage

end ByteMachine.CommandLine
