/-
**The machine never depends on its device, and a device sees exactly what is printed.**

A map from one device to another that carries printing over (`Device.Relays`) carries everything
over: steps, runs, and runs under a monitor that does not look at the device.

* `step_mapDevice`: one step. `after_mapDevice`, `steps_mapDevice`, `run?_mapDevice` and
  `resume_mapDevice`: all the rest, by induction.
* `Mirrors`: a device sees what an empty array of values collects. `mirrors_of_relays`: it does if
  it is given by a map of the array that carries printing over.
* `devices_mirror`: **every device sees what the array collects**, and that is the sequence of the
  printed values; the given devices, in their own terms.
-/

import ByteMachine.Proofs.Computer.Polls

namespace ByteMachine

universe u v w

/-- A map between devices that carries printing over. -/
def Device.Relays {δ : Type u} {ε : Type w} [Device δ] [Device ε] (carry : δ → ε) : Prop :=
  ∀ device value, carry (Device.print device value) = Device.print (carry device) value

/-- The value that the instruction at the program counter prints, if it prints one. -/
def Machine.printing? (machine : Machine) : Option UInt8 :=
  match machine.current? with
  | some (.print source) => some (machine.registers.get source)
  | _ => none

/-- The monitor that watches the machine and the count, and neither sees nor changes the device. -/
def Monitor.blind {σ : Type v} {δ : Type u} (watch : Nat → Machine → σ → Bool × σ) :
    Monitor σ δ := fun count machine observer device =>
  ⟨(watch count machine observer).1, (watch count machine observer).2, device⟩

namespace Computer

variable {σ : Type v} {δ : Type u} {ε : Type w}

def mapDevice (carry : δ → ε) (computer : Computer δ) : Computer ε :=
  ⟨computer.machine, carry computer.device⟩

/-- A machine whose device is an array, empty so far. -/
def collecting (machine : Machine) : Computer (Array UInt8) := ⟨machine, #[]⟩

end Computer

def Outcome.mapDevice {σ : Type v} {δ : Type u} {ε : Type w} (carry : δ → ε)
    (outcome : Outcome σ δ) : Outcome σ ε :=
  ⟨outcome.exit, outcome.observer, outcome.computer.mapDevice carry⟩

def Poll.mapDevice {σ : Type v} {δ : Type u} {ε : Type w} (carry : δ → ε) (poll : Poll σ δ) :
    Poll σ ε :=
  ⟨poll.count, poll.observer, poll.computer.mapDevice carry⟩

namespace Computer

variable {σ : Type v} {δ : Type u} {ε : Type w} [Device δ] [Device ε] {carry : δ → ε}

/-- **A device sees what an empty array collects.** From the same machine everything goes as with
the array, and the device is at each point a function of what the array holds there. -/
structure Mirrors (machine : Machine) (device : δ) (view : Array UInt8 → δ) : Prop where
  after : ∀ count, after ⟨machine, device⟩ count = ((collecting machine).after count).mapDevice view
  steps : ∀ count, steps count ⟨machine, device⟩ =
    (steps count (collecting machine)).map (Prod.map id (mapDevice view))
  run : ∀ fuel, run? fuel ⟨machine, device⟩ =
    (run? fuel (collecting machine)).map (Prod.map id (mapDevice view))
  runUntil : ∀ (σ : Type v) (watch : Nat → Machine → σ → Bool × σ) (observer : σ),
    runUntil (.blind watch) observer ⟨machine, device⟩ =
      (runUntil (.blind watch) observer (collecting machine)).mapDevice view

/-! ### Everything is carried over -/

theorem accept_relay (relays : Device.Relays carry) (device : δ) (printed : Option UInt8) :
    carry (Device.accept device printed) = Device.accept (carry device) printed := by
  cases printed with
  | none => rfl
  | some value => exact relays device value

/-- **A step with one device is the step with the other.** -/
theorem step_mapDevice (relays : Device.Relays carry) (computer : Computer δ) :
    (computer.mapDevice carry).step = Prod.map id (mapDevice carry) computer.step := by
  have device := accept_relay relays computer.device computer.machine.output?
  rw [step_eq, step_eq]
  exact congrArg (fun device => (computer.machine.status, Computer.mk computer.machine.next device))
    device.symm

theorem next_mapDevice (relays : Device.Relays carry) (computer : Computer δ) :
    (computer.mapDevice carry).next = computer.next.mapDevice carry :=
  congrArg Prod.snd (step_mapDevice relays computer)

theorem after_mapDevice (relays : Device.Relays carry) (computer : Computer δ) (count : Nat) :
    (computer.mapDevice carry).after count = (computer.after count).mapDevice carry := by
  induction count with
  | zero => rfl
  | succ count ih => rw [after_succ, after_succ, ih, next_mapDevice relays]

theorem steps_mapDevice (relays : Device.Relays carry) (count : Nat) (computer : Computer δ) :
    steps count (computer.mapDevice carry) =
      (steps count computer).map (Prod.map id (mapDevice carry)) := by
  induction count generalizing computer with
  | zero => rfl
  | succ count ih =>
    rw [steps, steps, step_mapDevice relays]
    obtain ⟨status, next⟩ := computer.step
    cases status with
    | running => exact congrArg (List.cons _) (ih next)
    | halted | faulted fault => rfl

theorem run?_mapDevice (relays : Device.Relays carry) (fuel : Nat) (computer : Computer δ) :
    run? fuel (computer.mapDevice carry) =
      (run? fuel computer).map (Prod.map id (mapDevice carry)) := by
  induction fuel generalizing computer with
  | zero => rfl
  | succ fuel ih =>
    rw [run?, run?, step_mapDevice relays]
    obtain ⟨status, next⟩ := computer.step
    cases status with
    | running => exact ih next
    | halted | faulted fault => rfl

/-! ### Runs under a monitor that does not look -/

section Blind

variable {watch : Nat → Machine → σ → Bool × σ} {poll : Poll σ δ} {outcome : Outcome σ δ}

theorem following_mapDevice (relays : Device.Relays carry) (poll : Poll σ δ) :
    (Monitor.blind watch).following (poll.mapDevice carry) =
      ((Monitor.blind watch).following poll).mapDevice carry :=
  congrArg (Poll.mk _ _) (next_mapDevice relays poll.computer)

theorem status_mapDevice (computer : Computer δ) :
    (computer.mapDevice carry).status = computer.status := by
  rw [status_eq, status_eq]
  rfl

theorem passes_mapDevice (passes : (Monitor.blind watch).Passes poll) :
    (Monitor.blind watch).Passes (poll.mapDevice carry) :=
  ⟨passes.allowed, (status_mapDevice poll.computer).trans passes.running⟩

theorem concludes_mapDevice (relays : Device.Relays carry)
    (concludes : (Monitor.blind watch).Concludes poll outcome) :
    (Monitor.blind watch).Concludes (poll.mapDevice carry) (outcome.mapDevice carry) := by
  cases concludes with
  | stopped stop => exact .stopped stop
  | ended allowed stepped ends =>
    have carried := (step_mapDevice relays poll.computer).trans (congrArg _ stepped)
    exact .ended allowed carried ends

theorem simulates_mapDevice (relays : Device.Relays carry) :
    (Monitor.blind watch : Monitor σ δ).Simulates (Monitor.blind watch)
      (fun poll other => other = poll.mapDevice carry)
      (fun outcome other => other = outcome.mapDevice carry) where
  passes := by
    rintro poll _ rfl passes
    exact passes_mapDevice passes
  follows := by
    rintro poll _ rfl -
    exact following_mapDevice relays poll
  concludes := by
    rintro poll _ outcome rfl concludes
    exact ⟨_, concludes_mapDevice relays concludes, rfl⟩
  exhausts := by
    rintro poll _ rfl
    rfl

/-- **A run with one device is the run with the other.** -/
theorem resume_mapDevice (relays : Device.Relays carry) (remaining : Nat) (poll : Poll σ δ) :
    resume (.blind watch) remaining (poll.mapDevice carry) =
      (resume (.blind watch) remaining poll).mapDevice carry :=
  resume_simulates (simulates_mapDevice relays) remaining rfl

end Blind

/-! ### What a device sees -/

/-- The array's values, carried over to another device. -/
theorem mirrors_of_relays {machine : Machine} {device : δ} {view : Array UInt8 → δ}
    (relays : Device.Relays view) (empty : view #[] = device) : Mirrors machine device view := by
  obtain rfl := empty
  exact {
    after := after_mapDevice relays (collecting machine)
    steps := fun count => steps_mapDevice relays count (collecting machine)
    run := fun fuel => run?_mapDevice relays fuel (collecting machine)
    runUntil := fun _ _ observer =>
      resume_mapDevice relays countLimit ⟨0, observer, collecting machine⟩ }

theorem output?_eq_printing? (machine : Machine) : machine.output? = machine.printing? := by
  rw [Machine.printing?]
  cases found : machine.current? with
  | none =>
    exact Machine.output?_of_stuck (Machine.stuck_of_missing found)
  | some instruction =>
    by_cases stops : instruction = .halt
    · subst stops
      rw [Machine.output?, Machine.step_of_fetch?_eq_halt found]
    · rw [Machine.output?, Machine.step_of_fetch?_eq_some found stops]
      cases instruction <;> rfl

/-- **The array holds what was printed, in order.** -/
theorem device_after_collecting (machine : Machine) (count : Nat) :
    ((collecting machine).after count).device.toList =
      (List.range count).filterMap fun done => (machine.after done).printing? := by
  induction count with
  | zero => rfl
  | succ count ih =>
    have here : ((collecting machine).after count).machine = machine.after count :=
      machine_after (collecting machine) count
    rw [after_succ, next, step_eq, here, output?_eq_printing?,
      Machine.gathered_succ Machine.printing?, ← ih]
    cases (machine.after count).printing? with
    | none => exact (List.append_nil _).symm
    | some value => exact Array.toList_push

theorem foldl_relays (device : δ) :
    Device.Relays fun values : Array UInt8 => values.foldl Device.print device :=
  fun _ _ => Array.foldl_push

/-- **A device is the fold of its printing over what was printed.** -/
theorem device_after (machine : Machine) (device : δ) (count : Nat) :
    (after ⟨machine, device⟩ count).device =
      ((List.range count).filterMap fun done => (machine.after done).printing?).foldl
        Device.print device := by
  have mirrored := after_mapDevice (foldl_relays device) (collecting machine) count
  rw [← device_after_collecting, Array.foldl_toList]
  exact congrArg Computer.device mirrored

theorem append_relays (held : Array UInt8) :
    Device.Relays fun values : Array UInt8 => held ++ values :=
  fun _ _ => Array.append_push

theorem console_relays (console : Console) :
    Device.Relays fun values : Array UInt8 =>
      (⟨console.text ++ String.join (values.toList.map Console.line)⟩ : Console) := by
  intro values value
  show Console.mk (_ ++ String.join ((values.push value).toList.map Console.line)) = Console.mk _
  rw [Array.toList_push, List.map_append, String.join_append, ← String.append_assoc]
  simp

/-- **The machine never depends on its device, and every device sees exactly what is printed.** What
an empty array collects is the sequence of the printed values; any other device ends as the fold of
its printing over them, in steps and in runs. An array that holds something already gets them
behind it, a silent device nothing, and a console a line for each. -/
theorem devices_mirror (machine : Machine) :
    (∀ count, ((collecting machine).after count).device.toList =
        (List.range count).filterMap fun done => (machine.after done).printing?) ∧
      (∀ (δ : Type u) [Device δ] (device : δ),
        Mirrors.{u, v} machine device fun values => values.foldl Device.print device) ∧
      (∀ held : Array UInt8, Mirrors.{0, v} machine held fun values => held ++ values) ∧
      (∀ silent : Silent, Mirrors.{0, v} machine silent fun _ => silent) ∧
      ∀ console : Console, Mirrors.{0, v} machine console fun values =>
        ⟨console.text ++
          String.join (values.toList.map fun value => toString value.toNat ++ "\n")⟩ := by
  refine ⟨device_after_collecting machine, fun δ _ device => ?_, fun held => ?_, fun silent => ?_,
    fun console => ?_⟩
  · exact mirrors_of_relays (foldl_relays device) rfl
  · exact mirrors_of_relays (append_relays held) Array.append_empty
  · exact mirrors_of_relays (fun _ _ => rfl) rfl
  · refine mirrors_of_relays (console_relays console) ?_
    simp

end Computer

end ByteMachine
