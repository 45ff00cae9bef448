import TwoStack.Proofs.Disassembly.Linear
import TwoStack.Proofs.Machine.Plan
import TwoStack.Proofs.Machine.Reachable

/-!
# Attempts

`Machine.Attempts` lists what can become of an attempt: there is no instruction to read, the plan is
refused, or the plan is made and the console, if it is needed, answers or fails.  `Machine.attempt`
is just this (`Machine.attempt_eq_iff`), so nothing else has to look into decoding, planning and the
console at once.
-/

namespace TwoStack

variable {σ : Type}

/-! ## What an attempt can come to -/

/-- The attempts of a machine with a console, and what becomes of the console. -/
inductive Machine.Attempts [Console σ] (machine : Machine) (console : σ) : Attempt → σ → Prop
  | outside (decoded : Instruction.decode machine.memory.bytes machine.ip = .error .outOfRange) :
    Attempts machine console .outside console
  | unknown {byte : UInt8}
    (decoded : Instruction.decode machine.memory.bytes machine.ip = .error (.unknownOpcode byte)) :
    Attempts machine console (.unreadable (.unknownOpcode byte)) console
  | truncated
    (decoded : Instruction.decode machine.memory.bytes machine.ip = .error .truncatedOperand) :
    Attempts machine console (.unreadable .truncatedOperand) console
  | refused {instruction : Instruction} {code : FaultCode}
    (decoded : Instruction.decode machine.memory.bytes machine.ip = .ok instruction)
    (planned : machine.plan instruction = .error code) :
    Attempts machine console (.refused instruction code) console
  | silent {instruction : Instruction} {effects : Effects}
    (decoded : Instruction.decode machine.memory.bytes machine.ip = .ok instruction)
    (plans : machine.Plans instruction effects .none) :
    Attempts machine console (.completed instruction effects) console
  | received {instruction : Instruction} {effects : Effects} {word : Word} {next : σ}
    (decoded : Instruction.decode machine.memory.bytes machine.ip = .ok instruction)
    (plans : machine.Plans instruction effects .input)
    (read : Console.read console = (.ok word, next)) :
    Attempts machine console (.completed instruction { effects with push := some word }) next
  | unanswered {instruction : Instruction} {effects : Effects} {cause : ConsoleError} {next : σ}
    (decoded : Instruction.decode machine.memory.bytes machine.ip = .ok instruction)
    (plans : machine.Plans instruction effects .input)
    (read : Console.read console = (.error cause, next)) :
    Attempts machine console (.refused instruction .malformedInput) next
  | sent {instruction : Instruction} {effects : Effects} {word : Word} {next : σ}
    (decoded : Instruction.decode machine.memory.bytes machine.ip = .ok instruction)
    (plans : machine.Plans instruction effects (.output word))
    (written : Console.write console word = (.ok (), next)) :
    Attempts machine console (.completed instruction effects) next
  | unsent {instruction : Instruction} {effects : Effects} {word : Word} {cause : ConsoleError}
    {next : σ} (decoded : Instruction.decode machine.memory.bytes machine.ip = .ok instruction)
    (plans : machine.Plans instruction effects (.output word))
    (written : Console.write console word = (.error cause, next)) :
    Attempts machine console (.refused instruction .outputFailed) next

section Attempts

variable [Console σ] {machine : Machine} {console next : σ} {attempt : Attempt}

/-- There is a byte at an instruction pointer in memory. -/
theorem Machine.decode_ne_outOfRange {machine : Machine} (inside : machine.ip < memorySize) :
    Instruction.decode machine.memory.bytes machine.ip ≠ .error .outOfRange := by
  rw [ne_eq, Instruction.decode_eq_outOfRange_iff, machine.memory.size_bytes]
  exact Nat.not_le.2 inside

theorem Machine.attempt_of_completed {instruction : Instruction} {effects : Effects}
    (decoded : Instruction.decode machine.memory.bytes machine.ip = .ok instruction)
    (executed : machine.execute instruction console = (.ok effects, next)) :
    machine.attempt console = (.completed instruction effects, next) := by
  rw [Machine.attempt, decoded]
  dsimp only
  rw [executed]

theorem Machine.attempt_of_refused {instruction : Instruction} {code : FaultCode}
    (decoded : Instruction.decode machine.memory.bytes machine.ip = .ok instruction)
    (executed : machine.execute instruction console = (.error code, next)) :
    machine.attempt console = (.refused instruction code, next) := by
  rw [Machine.attempt, decoded]
  dsimp only
  rw [executed]

/-- An attempt comes to what the case says. -/
theorem Machine.Attempts.attempt_eq (attempts : machine.Attempts console attempt next) :
    machine.attempt console = (attempt, next) := by
  cases attempts with
  | outside decoded => rw [Machine.attempt, decoded]
  | unknown decoded => rw [Machine.attempt, decoded]
  | truncated decoded => rw [Machine.attempt, decoded]
  | refused decoded planned =>
      apply Machine.attempt_of_refused decoded
      rw [Machine.execute, planned]
  | silent decoded plans =>
      apply Machine.attempt_of_completed decoded
      rw [Machine.execute, plans.plan_eq]
  | received decoded plans read =>
      apply Machine.attempt_of_completed decoded
      rw [Machine.execute, plans.plan_eq]
      dsimp only
      rw [read]
  | unanswered decoded plans read =>
      apply Machine.attempt_of_refused decoded
      rw [Machine.execute, plans.plan_eq]
      dsimp only
      rw [read]
  | sent decoded plans written =>
      apply Machine.attempt_of_completed decoded
      rw [Machine.execute, plans.plan_eq]
      dsimp only
      rw [written]
  | unsent decoded plans written =>
      apply Machine.attempt_of_refused decoded
      rw [Machine.execute, plans.plan_eq]
      dsimp only
      rw [written]

/-- There is no attempt without a case. -/
theorem Machine.exists_attempts (machine : Machine) (console : σ) :
    ∃ attempt next, machine.Attempts console attempt next := by
  cases decoded : Instruction.decode machine.memory.bytes machine.ip with
  | error cause =>
      cases cause with
      | outOfRange => exact ⟨_, _, .outside decoded⟩
      | unknownOpcode byte => exact ⟨_, _, .unknown decoded⟩
      | truncatedOperand => exact ⟨_, _, .truncated decoded⟩
  | ok instruction =>
      rcases planned : machine.plan instruction with code | ⟨effects, _ | _ | word⟩
      · exact ⟨_, _, .refused decoded planned⟩
      · exact ⟨_, _, .silent decoded (Machine.plans_of_plan planned)⟩
      · rcases read : Console.read console with ⟨cause | word, next⟩
        · exact ⟨_, _, .unanswered decoded (Machine.plans_of_plan planned) read⟩
        · exact ⟨_, _, .received decoded (Machine.plans_of_plan planned) read⟩
      · rcases written : Console.write console word with ⟨cause | _, next⟩
        · exact ⟨_, _, .unsent decoded (Machine.plans_of_plan planned) written⟩
        · exact ⟨_, _, .sent decoded (Machine.plans_of_plan planned) written⟩

theorem Machine.attempts (machine : Machine) (console : σ) :
    machine.Attempts console (machine.attempt console).1 (machine.attempt console).2 := by
  obtain ⟨attempt, next, attempts⟩ := machine.exists_attempts console
  rw [attempts.attempt_eq]
  exact attempts

theorem Machine.attempt_eq_iff :
    machine.attempt console = (attempt, next) ↔ machine.Attempts console attempt next := by
  constructor
  · intro same
    have attempts := machine.attempts console
    rwa [same] at attempts
  · exact Machine.Attempts.attempt_eq

end Attempts

/-- An instruction of the program is decoded from the memory into which the program was loaded. -/
theorem Instruction.WellFormed.decode_ofBytes {instruction : Instruction}
    (formed : instruction.WellFormed) {program : Bytes} (fits : program.size ≤ memorySize)
    {address : Nat} (written : instruction.encoding <+: program.toList.drop address) :
    Instruction.decode (Memory.ofBytes program).bytes address = .ok instruction := by
  obtain ⟨rest, written⟩ := written
  have within : address ≤ program.toList.length := by
    have shorter := congrArg List.length written
    rw [List.length_drop, List.length_append, Instruction.encoding, List.length_cons] at shorter
    omega
  apply formed.decode_eq
  rw [Memory.toList_ofBytes fits, List.drop_append_of_le_length within, ← written,
    List.append_assoc]

/-! ## After an attempt -/

/-- The fault that an attempt raises. -/
def Attempt.code? : Attempt → Option FaultCode
  | unreadable code => some code
  | refused _ code => some code
  | outside | completed _ _ => none

section After

variable [Console σ] {machine : Machine} {console next : σ} {attempt : Attempt}

/-- A machine that goes on has an instruction pointer in memory. -/
theorem Machine.lt_memorySize_of_after (running : (machine.after attempt).status = .running) :
    (machine.after attempt).ip < memorySize := by
  cases attempt with
  | outside => cases running
  | unreadable code => cases running
  | refused instruction code => cases running
  | completed instruction effects =>
      simp only [Machine.after] at running ⊢
      split at running
      · cases running
      · next goes =>
          rw [if_neg goes]
          split at running
          · cases running
          · next inside =>
              rw [if_neg inside]
              exact Nat.not_le.1 inside

theorem Machine.outcome_completed_ne_faulted (machine : Machine) (instruction : Instruction)
    (effects : Effects) (fault : Fault) :
    machine.outcome (.completed instruction effects) ≠ .faulted fault := by
  simp only [Machine.outcome]
  split
  · nofun
  · split <;> nofun

/-- An attempt that answers with a fault raises it at the instruction pointer, and does nothing
else. -/
theorem Machine.raised_of_outcome {fault : Fault}
    (faulted : (machine.after attempt).outcome attempt = .faulted fault) :
    ∃ code, attempt.code? = some code ∧ fault = ⟨code, machine.ip, machine.snapshot⟩ ∧
      machine.after attempt = { machine with status := .faulted fault } := by
  cases attempt with
  | outside => cases faulted
  | unreadable code =>
      cases faulted
      exact ⟨code, rfl, rfl, rfl⟩
  | refused instruction code =>
      cases faulted
      exact ⟨code, rfl, rfl, rfl⟩
  | completed instruction effects =>
      exact absurd faulted (Machine.outcome_completed_ne_faulted _ _ _ _)

/-- An attempt in memory raises a fault or counts as a step. -/
theorem Machine.Attempts.faulted_or_counted (attempts : machine.Attempts console attempt next)
    (inside : machine.ip < memorySize) :
    (∃ fault, (machine.after attempt).status = .faulted fault) ∨
      (machine.after attempt).steps = machine.steps + 1 := by
  have counted (instruction : Instruction) (effects : Effects) :
      (machine.after (.completed instruction effects)).steps = machine.steps + 1 := by
    obtain ⟨status, left⟩ := machine.after_completed instruction effects
    rw [left]
    rfl
  cases attempts with
  | outside decoded => exact absurd decoded (Machine.decode_ne_outOfRange inside)
  | unknown decoded => exact .inl ⟨_, rfl⟩
  | truncated decoded => exact .inl ⟨_, rfl⟩
  | refused decoded planned => exact .inl ⟨_, rfl⟩
  | unanswered decoded plans read => exact .inl ⟨_, rfl⟩
  | unsent decoded plans written => exact .inl ⟨_, rfl⟩
  | silent decoded plans => exact .inr (counted _ _)
  | received decoded plans read => exact .inr (counted _ _)
  | sent decoded plans written => exact .inr (counted _ _)

/-- An instruction that needs nothing from the console and goes on in memory is retired. -/
theorem Machine.Plans.step_eq {instruction : Instruction} {effects : Effects}
    (plans : machine.Plans instruction effects .none) (running : machine.status = .running)
    (decoded : Instruction.decode machine.memory.bytes machine.ip = .ok instruction)
    (goes : effects.halts = false) (inside : effects.next < memorySize) (host : Host σ) :
    ∃ after, machine.step host = (.retired instruction.opcode, machine.commit effects, after) ∧
      after.console = host.console := by
  have attempts : machine.Attempts host.console (.completed instruction effects) host.console :=
    .silent decoded plans
  have within : ¬memorySize ≤ (machine.commit effects).ip := Nat.not_le.2 inside
  have left : machine.after (.completed instruction effects) = machine.commit effects := by
    simp [Machine.after, goes, within]
  have outcome := Machine.step_outcome_of_running running host
  have next := Machine.step_machine_of_running running host
  have console := Machine.step_console_of_running running host
  rw [attempts.attempt_eq] at outcome next console
  rw [left] at outcome next
  refine ⟨(machine.step host).2.2, Prod.ext ?_ (Prod.ext next rfl), console⟩
  rw [outcome]
  simp [Machine.outcome, goes, within]

end After

end TwoStack
