import TwoStack.Console.Scripted
import TwoStack.Proofs.Machine.Attempt
import TwoStack.Proofs.Machine.Stopping

/-!
# Faults are atomic

An instruction that raises a fault leaves the machine as it found it, and tells in the fault where
that was (`Machine.fault_is_atomic`).  It has not turned to the console either, unless the console
is what failed: then there was one request, of `INPUT` for a word or of `PEEK` with a word, and the
console has turned it down (`Machine.AsksInVain`).

The state of a console does not always show whether it was asked.  So the requests are counted by a
console in front of it, which passes every request on and remembers it.  A machine does not notice
the difference (`Machine.step_forget`).
-/

namespace TwoStack

/-! ## Recording consoles -/

/-- What an instruction asks of a console. -/
inductive Request where
  | read
  | write (word : Word)
  deriving DecidableEq, Repr

/-- A console, and the requests that it has had so far. -/
structure Recorded (σ : Type) where
  console : σ
  requests : List Request

/-- A recording console passes every request on. -/
instance {σ : Type} [Console σ] : Console (Recorded σ) where
  read recorded :=
    let (answer, console) := Console.read recorded.console
    (answer, ⟨console, recorded.requests ++ [.read]⟩)
  write recorded word :=
    let (answer, console) := Console.write recorded.console word
    (answer, ⟨console, recorded.requests ++ [.write word]⟩)

variable {σ : Type}

/-- The host with a recording of its console, which has had no requests yet. -/
def Host.recorded (host : Host σ) : Host (Recorded σ) :=
  ⟨⟨host.console, []⟩, host.screen, host.trace, host.journal⟩

/-- The host without the recording. -/
def Host.forget (host : Host (Recorded σ)) : Host σ :=
  ⟨host.console.console, host.screen, host.trace, host.journal⟩

@[simp] theorem Host.forget_recorded (host : Host σ) : host.recorded.forget = host := rfl

/-! ## Recording changes nothing -/

section Recorded

variable [Console σ] {machine : Machine} {recorded next : Recorded σ} {attempt : Attempt}

theorem Recorded.of_read {answer : Except ConsoleError Word}
    (asked : Console.read recorded = (answer, next)) :
    Console.read recorded.console = (answer, next.console) ∧
      next.requests = recorded.requests ++ [.read] := by
  cases asked
  exact ⟨rfl, rfl⟩

theorem Recorded.of_write {word : Word} {answer : Except ConsoleError Unit}
    (asked : Console.write recorded word = (answer, next)) :
    Console.write recorded.console word = (answer, next.console) ∧
      next.requests = recorded.requests ++ [.write word] := by
  cases asked
  exact ⟨rfl, rfl⟩

/-- An attempt with a recording is the same attempt without it. -/
theorem Machine.Attempts.forget (attempts : machine.Attempts recorded attempt next) :
    machine.Attempts recorded.console attempt next.console := by
  cases attempts with
  | outside decoded => exact .outside decoded
  | unknown decoded => exact .unknown decoded
  | truncated decoded => exact .truncated decoded
  | refused decoded planned => exact .refused decoded planned
  | silent decoded plans => exact .silent decoded plans
  | received decoded plans read => exact .received decoded plans (Recorded.of_read read).1
  | unanswered decoded plans read => exact .unanswered decoded plans (Recorded.of_read read).1
  | sent decoded plans written => exact .sent decoded plans (Recorded.of_write written).1
  | unsent decoded plans written => exact .unsent decoded plans (Recorded.of_write written).1

theorem Machine.attempt_forget (machine : Machine) (recorded : Recorded σ) :
    machine.attempt recorded.console =
      ((machine.attempt recorded).1, (machine.attempt recorded).2.console) :=
  (machine.attempts recorded).forget.attempt_eq

/-- A step with a recording is the same step without it. -/
theorem Machine.step_forget (machine : Machine) (host : Host (Recorded σ)) :
    machine.step host.forget =
      ((machine.step host).1, (machine.step host).2.1, (machine.step host).2.2.forget) :=
  Machine.step_mapConsole Recorded.console host (machine.attempt_forget host.console)

end Recorded

/-! ## What is asked in vain -/

section Faults

variable [Console σ] {machine : Machine} {console : σ} {attempt : Attempt}

/-- The requests that a step makes to the console. -/
def Machine.requests (machine : Machine) (host : Host σ) : List Request :=
  (machine.step host.recorded).2.2.console.requests

/-- What the instruction that raises a fault has asked of the console, and what it left behind.  All
faults are raised before the console is asked, except those that it causes itself. -/
inductive Machine.AsksInVain (machine : Machine) (console : σ) :
    FaultCode → List Request → σ → Prop
  | nothing {code : FaultCode} (other : code.faultClass ≠ .console) :
    AsksInVain machine console code [] console
  | word {cause : ConsoleError} {next : σ}
    (decoded : Instruction.decode machine.memory.bytes machine.ip = .ok ⟨.input, none⟩)
    (read : Console.read console = (.error cause, next)) :
    AsksInVain machine console .malformedInput [.read] next
  | place {word : Word} {cause : ConsoleError} {next : σ}
    (decoded : Instruction.decode machine.memory.bytes machine.ip = .ok ⟨.peek, none⟩)
    (top : machine.operand 0 = .ok word)
    (written : Console.write console word = (.error cause, next)) :
    AsksInVain machine console .outputFailed [.write word] next

theorem Machine.Attempts.asksInVain {next : Recorded σ} {code : FaultCode}
    (attempts : machine.Attempts ⟨console, []⟩ attempt next) (raised : attempt.code? = some code) :
    machine.AsksInVain console code next.requests next.console := by
  cases attempts with
  | outside decoded => cases raised
  | unknown decoded =>
      cases raised
      exact .nothing nofun
  | truncated decoded =>
      cases raised
      exact .nothing nofun
  | refused decoded planned =>
      -- refused when it was planned, before the console is asked
      cases raised
      exact .nothing (machine.plan_sparesConsole _ _ planned)
  | silent decoded plans => cases raised
  | received decoded plans read => cases raised
  | unanswered decoded plans read =>
      cases raised
      obtain ⟨read, requests⟩ := Recorded.of_read read
      have formed := Instruction.wellFormed_of_decode decoded
      rw [formed.eq_plain plans.opcode_of_input nofun] at decoded
      rw [requests]
      exact .word decoded read
  | sent decoded plans written => cases raised
  | unsent decoded plans written =>
      cases raised
      obtain ⟨written, requests⟩ := Recorded.of_write written
      obtain ⟨peek, top⟩ := plans.opcode_of_output
      have formed := Instruction.wellFormed_of_decode decoded
      rw [formed.eq_plain peek nofun] at decoded
      rw [requests]
      exact .place decoded top written

end Faults

/-! ## Atomicity -/

section Atomicity

variable [Console σ] {machine : Machine} {host : Host σ} {fault : Fault}

/-- A step that answers with a fault has done nothing else than latch it. -/
structure Machine.FaultsAtomically (machine : Machine) (host : Host σ) (fault : Fault) : Prop where
  /-- Memory, stacks, instruction pointer and step counter are as before; the fault is latched. -/
  unchanged : (machine.step host).2.1 = { machine with status := .faulted fault }
  /-- The fault has the address of the instruction. -/
  address : fault.address = machine.ip
  /-- The fault shows the registers before the instruction. -/
  snapshot : fault.snapshot = machine.snapshot
  /-- The requests are those of this very step: it takes the same course with a recording. -/
  recorded : machine.step host =
    ((machine.step host.recorded).1, (machine.step host.recorded).2.1,
      (machine.step host.recorded).2.2.forget)
  /-- The console has not been asked, unless it has turned down the one request of the
  instruction. -/
  asked : machine.AsksInVain host.console fault.code (machine.requests host)
    (machine.step host).2.2.console

/-- A fault is atomic. -/
theorem Machine.fault_is_atomic (running : machine.status = .running)
    (faulted : (machine.step host).1 = .faulted fault) : machine.FaultsAtomically host fault := by
  have recorded := machine.step_forget host.recorded
  rw [Host.forget_recorded] at recorded
  rw [recorded, Machine.step_outcome_of_running running] at faulted
  obtain ⟨code, raised, rfl, latched⟩ := Machine.raised_of_outcome faulted
  have asked := (machine.attempts host.recorded.console).asksInVain raised
  rw [← Machine.step_console_of_running running host.recorded] at asked
  rw [← Machine.step_machine_of_running running host.recorded] at latched
  exact
    { unchanged := (congrArg (·.2.1) recorded).trans latched
      address := rfl
      snapshot := rfl
      recorded := recorded
      asked := by
        rw [congrArg (·.2.2.console) recorded]
        exact asked }

/-- An `INPUT` for which there is no word. -/
theorem Machine.fault_is_atomic_without_input :
    let machine := Machine.load ⟨#[0x14], by decide⟩ {}
    let host : Host Scripted := .ofConsole (Scripted.ofInputs []) (.empty ⟨[], none⟩)
    let fault : Fault := ⟨.malformedInput, 0, machine.snapshot⟩
    machine.status = .running ∧ (machine.step host).1 = .faulted fault ∧
      machine.FaultsAtomically host fault := by
  intro machine host fault
  have decoded : Instruction.decode machine.memory.bytes machine.ip = .ok ⟨.input, none⟩ :=
    Instruction.decode_plain nofun (Memory.getElem?_ofBytes (by decide) (by decide))
  have attempts : machine.Attempts host.console (.refused ⟨.input, none⟩ .malformedInput)
      host.console := .unanswered decoded (.input rfl) rfl
  have faulted : (machine.step host).1 = .faulted fault := by
    rw [Machine.step_outcome_of_running rfl, attempts.attempt_eq]
    rfl
  exact ⟨rfl, faulted, Machine.fault_is_atomic rfl faulted⟩

end Atomicity

end TwoStack
