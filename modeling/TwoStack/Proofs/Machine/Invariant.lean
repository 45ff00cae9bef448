import TwoStack.Console.Scripted
import TwoStack.Proofs.Machine.Attempt
import TwoStack.Proofs.Machine.Stopping

/-!
# What holds of every machine

Whatever program a machine was loaded with, and whatever it has done since, its parts agree with
each other (`Machine.Consistent`), and once it has stopped it rests: every step and every run
answers the same, and neither the machine nor the host changes (`Machine.Rests`).

The agreement that an attempt has to keep is about the instruction stack and the status
(`Machine.Sound`): the addresses on the stack are words, a machine that goes on has its instruction
pointer in memory, and one that has stopped has it where the status says.  The bounds on memory and
on the depth of the stacks are parts of their types.
-/

namespace TwoStack

/-! ## Statuses and instruction pointers -/

/-- What a status says about where the instruction pointer is. -/
def Machine.Explains (machine : Machine) : Status → Prop
  | .running => machine.ip < memorySize
  | .halted => 0 < machine.ip ∧ machine.memory.bytes[machine.ip - 1]? = some Opcode.halt.toByte
  | .endOfMemory => machine.ip = memorySize
  | .faulted fault =>
    fault.address = machine.ip ∧ machine.ip < memorySize ∧ fault.snapshot = machine.snapshot

/-- The instruction stack holds words that are not negative, and the instruction pointer is where
the status says. -/
structure Machine.Sound (machine : Machine) : Prop where
  addresses : ∀ address ∈ machine.returns.toList, address < 2147483648
  explained : machine.Explains machine.status

section Sound

variable {machine : Machine}

theorem Machine.Sound.ip_lt (sound : machine.Sound) (running : machine.status = .running) :
    machine.ip < memorySize := by
  have explained := sound.explained
  rw [running] at explained
  exact explained

theorem Machine.Sound.ip_le (sound : machine.Sound) : machine.ip ≤ memorySize := by
  have explained := sound.explained
  rcases status : machine.status with _ | _ | _ | fault
  · exact Nat.le_of_lt (sound.ip_lt status)
  · rw [status] at explained
    have before := (Array.getElem?_eq_some_iff.1 explained.2).1
    rw [machine.memory.size_bytes] at before
    omega
  · rw [status] at explained
    exact Nat.le_of_eq explained
  · rw [status] at explained
    exact Nat.le_of_lt explained.2.1

theorem Machine.Sound.load (program : Image) (config : Config) :
    (Machine.load program config).Sound where
  addresses := nofun
  explained := show 0 < memorySize by decide

theorem Machine.Sound.raise (sound : machine.Sound) (running : machine.status = .running)
    (code : FaultCode) : (machine.raise code).Sound where
  addresses := sound.addresses
  explained := ⟨rfl, sound.ip_lt running, rfl⟩

theorem Machine.Sound.addresses_commit (sound : machine.Sound) (effects : Effects)
    (pushed : ∀ address, effects.returns = .push address → address < 2147483648) :
    ∀ address ∈ (machine.commit effects).returns.toList, address < 2147483648 := by
  intro address found
  cases change : effects.returns with
  | keep =>
      simp only [Machine.commit, change] at found
      exact sound.addresses address found
  | push entry =>
      simp only [Machine.commit, change] at found
      rcases Stack.mem_of_mem_push found with old | rfl
      · exact sound.addresses address old
      · exact pushed _ change
  | pop =>
      simp only [Machine.commit, change] at found
      exact sound.addresses address (Stack.mem_of_mem_pop found)

/-- An instruction that is done keeps the agreement, whichever word it puts on the data stack. -/
theorem Machine.Sound.completed {instruction : Instruction} {effects : Effects} {use : ConsoleUse}
    (sound : machine.Sound) (running : machine.status = .running)
    (decoded : Instruction.decode machine.memory.bytes machine.ip = .ok instruction)
    (plans : machine.Plans instruction effects use) (word : Option Word) :
    (machine.after (.completed instruction { effects with push := word })).Sound := by
  have fits := Instruction.add_size_le_of_decode decoded
  rw [machine.memory.size_bytes] at fits
  have inside := plans.next_le fits
  have addresses := sound.addresses_commit { effects with push := word }
    fun address pushed => plans.lt_of_returns pushed
  simp only [Machine.after]
  split
  · next halts =>
      -- `HALT` leaves memory as it is, so its byte still stands before the instruction pointer
      obtain ⟨halt, rfl⟩ := plans.of_halts halts
      have byte := (Instruction.bytes_of_decode decoded).1
      rw [halt] at byte
      exact ⟨addresses, Nat.succ_pos _, byte⟩
  · split
    · next outside => exact ⟨addresses, Nat.le_antisymm inside outside⟩
    · next goes =>
        refine ⟨addresses, ?_⟩
        rw [Machine.commit_status, running]
        exact Nat.not_le.1 goes

theorem Machine.Sound.after {σ : Type} [Console σ] (sound : machine.Sound)
    (running : machine.status = .running) (console : σ) :
    (machine.after (machine.attempt console).1).Sound := by
  have attempts := machine.attempts console
  generalize (machine.attempt console).1 = attempt, (machine.attempt console).2 = next at attempts ⊢
  cases attempts with
  | outside decoded => exact absurd decoded (Machine.decode_ne_outOfRange (sound.ip_lt running))
  | unknown decoded => exact sound.raise running _
  | truncated decoded => exact sound.raise running _
  | refused decoded planned => exact sound.raise running _
  | silent decoded plans => exact sound.completed running decoded plans _
  | received decoded plans read => exact sound.completed running decoded plans _
  | unanswered decoded plans read => exact sound.raise running _
  | sent decoded plans written => exact sound.completed running decoded plans _
  | unsent decoded plans written => exact sound.raise running _

theorem Machine.Reachable.sound (reachable : machine.Reachable) : machine.Sound :=
  reachable.of_preserved Machine.Sound.load
    fun _ console running sound => sound.after running console

end Sound

/-! ## What holds of every machine -/

/-- The parts of a machine agree with each other. -/
structure Machine.Consistent (machine : Machine) : Prop where
  memory : machine.memory.bytes.size = memorySize
  data : machine.data.depth ≤ machine.config.dataCapacity
  returns : machine.returns.depth ≤ machine.config.returnCapacity
  addresses : ∀ address ∈ machine.returns.toList, address < 2147483648
  ip : machine.ip ≤ memorySize
  running : machine.status.runState = .running →
    machine.ip < memorySize ∧ machine.status.fault? = none
  endOfMemory : machine.status.runState = .endOfMemory →
    machine.ip = memorySize ∧ machine.status.fault? = none
  halted : machine.status.runState = .halted →
    0 < machine.ip ∧ machine.memory.bytes[machine.ip - 1]? = some Opcode.halt.toByte ∧
      machine.status.fault? = none
  faulted : ∀ code, machine.status.runState = .faultLatched code →
    ∃ fault, machine.status.fault? = some fault ∧ fault.code = code ∧ fault.address = machine.ip ∧
      machine.ip < memorySize ∧ fault.snapshot = machine.snapshot

/-- Steps and runs leave the configuration of a machine alone. -/
structure Machine.KeepsConfig (machine : Machine) : Prop where
  step {σ : Type} [Console σ] (host : Host σ) : (machine.step host).2.1.config = machine.config
  run {σ : Type} [Console σ] (fuel : Nat) (host : Host σ) :
    (machine.runFor fuel host).2.1.config = machine.config

/-- All steps and all runs of a machine are answered in the same way, and change neither the machine
nor the host.  The host may be any, also one that records what its console is asked. -/
structure Machine.Rests (machine : Machine) (outcome : StepOutcome) (result : RunResult) :
    Prop where
  step {σ : Type} [Console σ] (host : Host σ) : machine.step host = (outcome, machine, host)
  answers {σ : Type} [Console σ] (host : Host σ) : machine.Answers host 1 result machine host
  run {σ : Type} [Console σ] (host : Host σ) : machine.run host = (some result, machine, host)

section Consistent

variable {machine : Machine}

theorem Machine.Sound.consistent (sound : machine.Sound) (fits : machine.Fits) :
    machine.Consistent where
  memory := machine.memory.size_bytes
  data := fits.data ▸ machine.data.size_le
  returns := fits.returns ▸ machine.returns.size_le
  addresses := sound.addresses
  ip := sound.ip_le
  running state := by
    have status := Status.runState_eq_running_iff.1 state
    exact ⟨sound.ip_lt status, by rw [status]; rfl⟩
  endOfMemory state := by
    have status := Status.runState_eq_endOfMemory_iff.1 state
    have explained := sound.explained
    rw [status] at explained ⊢
    exact ⟨explained, rfl⟩
  halted state := by
    have status := Status.runState_eq_halted_iff.1 state
    have explained := sound.explained
    rw [status] at explained ⊢
    exact ⟨explained.1, explained.2, rfl⟩
  faulted code state := by
    obtain ⟨fault, status, same⟩ := Status.runState_eq_faultLatched_iff.1 state
    have explained := sound.explained
    rw [status] at explained ⊢
    exact ⟨fault, rfl, same, explained⟩

theorem Machine.keepsConfig (machine : Machine) : machine.KeepsConfig := by
  have step {σ : Type} [Console σ] (other : Machine) (host : Host σ)
      (same : other.config = machine.config) : (other.step host).2.1.config = machine.config :=
    (Machine.config_tick (other, host)).trans same
  exact ⟨fun host => step machine host rfl,
    fun fuel host => Machine.runFrom_preserves step _ fuel machine host rfl⟩

theorem Machine.rests {outcome : StepOutcome} {result : RunResult}
    (stopped : machine.status.outcome? = some outcome)
    (answered : machine.status.result? 0 = some result) : machine.Rests outcome result where
  step host := Machine.step_of_stopped stopped host
  answers host := Machine.answers_of_result? answered host
  run host := (Machine.answers_of_result? answered host).run_eq (by decide)

/-- The parts of a machine agree with each other, whatever it was loaded with and has done since,
and a machine that has stopped rests. -/
theorem Machine.reachable_consistent (reachable : machine.Reachable) :
    machine.Consistent ∧ machine.KeepsConfig ∧
      (machine.status.runState = .halted → machine.Rests .halted (.stopped .halted 0)) ∧
      (machine.status.runState = .endOfMemory →
        machine.Rests .endOfMemory (.stopped .endOfMemory 0)) ∧
      (∀ fault, machine.status.fault? = some fault →
        machine.Rests (.faulted fault) (.faulted fault)) := by
  refine ⟨reachable.sound.consistent reachable.fits, machine.keepsConfig, fun state => ?_,
    fun state => ?_, fun fault latched => ?_⟩
  · have status := Status.runState_eq_halted_iff.1 state
    exact Machine.rests (by rw [status]; rfl) (by rw [status]; rfl)
  · have status := Status.runState_eq_endOfMemory_iff.1 state
    exact Machine.rests (by rw [status]; rfl) (by rw [status]; rfl)
  · have status := Status.fault?_eq_some_iff.1 latched
    exact Machine.rests (by rw [status]; rfl) (by rw [status]; rfl)

/-- A machine that has executed its only instruction, `HALT`. -/
theorem Machine.reachable_consistent_halted :
    let start := Machine.load ⟨#[0x16], by decide⟩ {}
    let host : Host Scripted := .ofConsole (Scripted.ofInputs []) (.empty ⟨[], none⟩)
    let machine := (start.step host).2.1
    machine.status.runState = .halted ∧ machine.Reachable ∧ machine.Consistent ∧
      machine.Rests .halted (.stopped .halted 0) := by
  intro start host machine
  have decoded : Instruction.decode start.memory.bytes start.ip = .ok ⟨.halt, none⟩ :=
    Instruction.decode_plain nofun (Memory.getElem?_ofBytes (by decide) (by decide))
  have attempts : start.Attempts host.console
      (.completed ⟨.halt, none⟩ { next := 1, halts := true }) host.console := .silent decoded .halt
  have stepped : machine = start.after (start.attempt host.console).1 :=
    Machine.step_machine_of_running rfl host
  have halted : machine.status.runState = .halted := by
    rw [stepped, attempts.attempt_eq]
    rfl
  have reachable : machine.Reachable := .step host (.load _ _)
  have holds := Machine.reachable_consistent reachable
  exact ⟨halted, reachable, holds.1, holds.2.2.1 halted⟩

end Consistent

end TwoStack
