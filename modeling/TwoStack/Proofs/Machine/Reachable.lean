import TwoStack.Machine.Run
import TwoStack.Proofs.Stack.TopFirst

/-!
# Reachable machines

A machine is reachable if it comes from loading a program by steps and runs in any order, each with
a host and a kind of console of its own.  A run is a series of steps (`runFrom_preserves`), and a
step of a machine that has stopped changes nothing, so a property of all reachable machines needs
only two facts: it holds of a loaded program, and what `Machine.after` makes of a running machine
keeps it (`Machine.Reachable.of_preserved`).

The first such property is that the stacks keep the capacities of the configuration.
-/

namespace TwoStack

/-! ## Loading -/

/-- A loaded program stands in memory from address `0` on. -/
theorem Memory.getElem?_ofBytes {program : Bytes} {address : Nat} (inside : address < program.size)
    (fits : address < memorySize) :
    (Memory.ofBytes program).bytes[address]? = program[address]? := by
  have within : address < (program.extract 0 memorySize).size := by
    rw [Array.size_extract]
    omega
  rw [Memory.ofBytes, Array.getElem?_append_left within, Array.getElem?_extract, if_pos (by omega),
    Nat.zero_add]

theorem Memory.toList_ofBytes {program : Bytes} (fits : program.size ≤ memorySize) :
    (Memory.ofBytes program).bytes.toList =
      program.toList ++ List.replicate (memorySize - program.size) 0 := by
  rw [Memory.ofBytes, Array.toList_append, Array.toList_replicate, Array.toList_extract,
    List.extract_eq_take_drop, List.drop_zero, Nat.sub_zero, List.take_of_length_le fits]

/-- Behind the program there are zeros. -/
theorem Memory.getElem?_ofBytes_of_le {program : Bytes} {address : Nat}
    (beyond : program.size ≤ address) (inside : address < memorySize) :
    (Memory.ofBytes program).bytes[address]? = some 0 := by
  have fits : program.size ≤ memorySize := Nat.le_of_lt (Nat.lt_of_le_of_lt beyond inside)
  rw [← Array.getElem?_toList, Memory.toList_ofBytes fits,
    List.getElem?_append_right (by simpa using beyond), List.getElem?_replicate, if_pos]
  rw [Array.length_toList]
  omega

/-! ## Observers leave the console alone -/

section Console

variable {σ : Type}

@[simp] theorem Host.console_present (host : Host σ) (frame : Unit → Frame) :
    (host.present frame).console = host.console := by
  unfold Host.present
  split <;> rfl

@[simp] theorem Host.console_emit (host : Host σ) (event : TraceEvent) :
    (host.emit event).console = host.console := by
  unfold Host.emit
  split <;> rfl

@[simp] theorem Host.console_note (host : Host σ) (level : Log.Level) (target : String)
    (text : Unit → String) : (host.note level target text).console = host.console := rfl

@[simp] theorem Host.console_started (host : Host σ) (ip : Nat) (instruction : Instruction) :
    (host.started ip instruction).console = host.console := by
  simp [Host.started]

@[simp] theorem Host.console_faulted (host : Host σ) (ip : Nat) (code : FaultCode) :
    (host.faulted ip code).console = host.console := by
  simp [Host.faulted]

@[simp] theorem Host.console_observe (host : Host σ) (ip : Nat) (attempt : Attempt)
    (machine : Machine) : (host.observe ip attempt machine).console = host.console := by
  cases attempt with
  | outside => rfl
  | unreadable code => exact host.console_faulted ip code
  | refused instruction code => simp [Host.observe]
  | completed instruction effects =>
      simp only [Host.observe]
      split
      · simp
      · split <;> simp

/-- The host with a console made from its own, and the same observers. -/
def Host.mapConsole {τ : Type} (change : σ → τ) (host : Host σ) : Host τ :=
  ⟨change host.console, host.screen, host.trace, host.journal⟩

section MapConsole

variable {τ : Type} (change : σ → τ) (host : Host σ)

@[simp] theorem Host.console_mapConsole :
    (host.mapConsole change).console = change host.console := rfl

@[simp] theorem Host.mapConsole_present (frame : Unit → Frame) :
    (host.present frame).mapConsole change = (host.mapConsole change).present frame := by
  rcases host with ⟨console, _ | screen, trace, journal⟩ <;> rfl

@[simp] theorem Host.mapConsole_emit (event : TraceEvent) :
    (host.emit event).mapConsole change = (host.mapConsole change).emit event := by
  rcases host with ⟨console, screen, _ | _ | _, journal⟩ <;> rfl

@[simp] theorem Host.mapConsole_note (level : Log.Level) (target : String) (text : Unit → String) :
    (host.note level target text).mapConsole change =
      (host.mapConsole change).note level target text := rfl

/-- What observers are told does not depend on the console. -/
@[simp] theorem Host.mapConsole_observe (ip : Nat) (attempt : Attempt) (machine : Machine) :
    (host.observe ip attempt machine).mapConsole change =
      (host.mapConsole change).observe ip attempt machine := by
  cases attempt with
  | outside => rfl
  | unreadable code => simp [Host.observe, Host.faulted]
  | refused instruction code => simp [Host.observe, Host.faulted, Host.started]
  | completed instruction effects =>
      simp only [Host.observe, Host.started]
      split
      · simp
      · split <;> simp

end MapConsole

end Console

/-! ## One step -/

section Step

variable {σ : Type} [Console σ]

/-- A machine that has stopped stays as it is. -/
theorem Machine.step_machine_of_stopped {machine : Machine} (stopped : machine.status ≠ .running)
    (host : Host σ) : (machine.step host).2.1 = machine := by
  unfold Machine.step
  split
  · rfl
  · rfl
  · rfl
  · next running => exact absurd running stopped

theorem Machine.step_outcome_of_running {machine : Machine} (running : machine.status = .running)
    (host : Host σ) :
    (machine.step host).1 =
      (machine.after (machine.attempt host.console).1).outcome
        (machine.attempt host.console).1 := by
  simp only [Machine.step, running, Host.console_present]

theorem Machine.step_machine_of_running {machine : Machine} (running : machine.status = .running)
    (host : Host σ) :
    (machine.step host).2.1 = machine.after (machine.attempt host.console).1 := by
  simp only [Machine.step, running, Host.console_present]

theorem Machine.step_console_of_running {machine : Machine} (running : machine.status = .running)
    (host : Host σ) : (machine.step host).2.2.console = (machine.attempt host.console).2 := by
  simp only [Machine.step, running, Host.console_present, Host.console_observe]

end Step

/-- An instruction that is done has had its effects, and may have stopped the machine. -/
theorem Machine.after_completed (machine : Machine) (instruction : Instruction)
    (effects : Effects) :
    ∃ status,
      machine.after (.completed instruction effects) = { machine.commit effects with status } := by
  simp only [Machine.after]
  split
  · exact ⟨.halted, rfl⟩
  · split
    · exact ⟨.endOfMemory, rfl⟩
    · exact ⟨(machine.commit effects).status, rfl⟩

/-! ## Runs -/

/-- What every step keeps, a run keeps. -/
theorem Machine.runFrom_preserves {σ : Type} [Console σ] {P : Machine → Prop}
    (kept : ∀ (machine : Machine) (host : Host σ), P machine → P (machine.step host).2.1)
    (start fuel : Nat) (machine : Machine) (host : Host σ) (holds : P machine) :
    P (machine.runFrom start fuel host).2.1 := by
  induction fuel generalizing machine host with
  | zero => exact holds
  | succ fuel ih =>
      have next := kept machine host holds
      unfold Machine.runFrom
      split
      · exact holds
      · split
        · next stepped => exact ih _ _ (by simpa only [stepped] using next)
        · next stepped => simpa only [stepped] using next
        · next stepped => simpa only [stepped] using next
        · next stepped => simpa only [stepped] using next

/-- Machines that come from loading a program by steps and runs. -/
inductive Machine.Reachable : Machine → Prop
  | load (program : Image) (config : Config) : Reachable (.load program config)
  | step {σ : Type} [Console σ] {machine : Machine} (host : Host σ) :
    Reachable machine → Reachable (machine.step host).2.1
  | run {σ : Type} [Console σ] {machine : Machine} (fuel : Nat) (host : Host σ) :
    Reachable machine → Reachable (machine.runFor fuel host).2.1

/-- A property that loading establishes and the attempts of a running machine keep holds of every
reachable machine. -/
theorem Machine.Reachable.of_preserved {P : Machine → Prop}
    (loaded : ∀ program config, P (.load program config))
    (kept : ∀ {σ : Type} [Console σ] (machine : Machine) (console : σ),
      machine.status = .running → P machine → P (machine.after (machine.attempt console).1))
    {machine : Machine} (reachable : machine.Reachable) : P machine := by
  have step {σ : Type} [Console σ] (machine : Machine) (host : Host σ) (holds : P machine) :
      P (machine.step host).2.1 := by
    by_cases running : machine.status = .running
    · rw [Machine.step_machine_of_running running]
      exact kept machine host.console running holds
    · rw [Machine.step_machine_of_stopped running]
      exact holds
  induction reachable with
  | load program config => exact loaded program config
  | step host _ ih => exact step _ host ih
  | run fuel host _ ih => exact Machine.runFrom_preserves step _ fuel _ host ih

/-! ## Capacities -/

/-- The stacks have the capacities that the configuration asks for. -/
structure Machine.Fits (machine : Machine) : Prop where
  data : machine.data.capacity = machine.config.dataCapacity
  returns : machine.returns.capacity = machine.config.returnCapacity

theorem Machine.Fits.commit {machine : Machine} (fits : machine.Fits) (effects : Effects) :
    (machine.commit effects).Fits := by
  rcases machine with ⟨memory, data, returns, ip, steps, status, config⟩
  rcases fits with ⟨dataFits, returnsFit⟩
  dsimp at dataFits returnsFit
  constructor
  · simp only [Machine.commit]
    split <;> simpa
  · simp only [Machine.commit]
    split <;> simpa

theorem Machine.Fits.after {machine : Machine} (fits : machine.Fits) (attempt : Attempt) :
    (machine.after attempt).Fits := by
  cases attempt with
  | outside => exact ⟨fits.data, fits.returns⟩
  | unreadable code => exact ⟨fits.data, fits.returns⟩
  | refused instruction code => exact ⟨fits.data, fits.returns⟩
  | completed instruction effects =>
      have committed := fits.commit effects
      obtain ⟨status, left⟩ := machine.after_completed instruction effects
      rw [left]
      exact ⟨committed.data, committed.returns⟩

theorem Machine.Reachable.fits {machine : Machine} (reachable : machine.Reachable) :
    machine.Fits :=
  reachable.of_preserved (fun _ _ => ⟨rfl, rfl⟩)
    (fun _ console _ fits => fits.after (Machine.attempt _ console).1)

end TwoStack
