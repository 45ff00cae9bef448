import Mathlib.Logic.Function.Iterate
import TwoStack.Proofs.Machine.Reachable

/-!
# Stopped machines

A machine stops with a status, and the status says everything about what comes after: what every
further step answers (`Status.outcome?`), and what a run answers (`Status.result?`).  A stopped
machine stays as it is, with its host (`Machine.step_of_stopped`), and a step leaves a machine that
goes on, or one whose status tells the outcome of the step (`Machine.running_or_outcome?_step`).

So the steps of a machine can be counted without asking whether it has stopped in between:
`Machine.tick^[count]` is the machine with its host after `count` steps, or where it has stopped
before.  A run is a number of such steps, and `Machine.Answers` says that it needs no more attempts
than a given number to come to its answer.
-/

namespace TwoStack

/-! ## What stopped machines answer -/

/-- What a step of a machine with this status answers, if the machine has stopped. -/
def Status.outcome? : Status → Option StepOutcome
  | running => none
  | halted => some .halted
  | endOfMemory => some .endOfMemory
  | faulted fault => some (.faulted fault)

/-- What a run answers that leaves the machine with this status, if the machine has stopped, and
that retired `steps` instructions. -/
def Status.result? (steps : Nat) : Status → Option RunResult
  | running => none
  | halted => some (.stopped .halted steps)
  | endOfMemory => some (.stopped .endOfMemory steps)
  | faulted fault => some (.faulted fault)

theorem Status.outcome?_eq_none_iff {status : Status} :
    status.outcome? = none ↔ status = .running := by
  cases status <;> simp [Status.outcome?]

theorem Status.result?_eq_none_iff {status : Status} {steps : Nat} :
    status.result? steps = none ↔ status = .running := by
  cases status <;> simp [Status.result?]

theorem Status.runState_eq_running_iff {status : Status} :
    status.runState = .running ↔ status = .running := by
  cases status <;> simp [Status.runState]

theorem Status.runState_eq_halted_iff {status : Status} :
    status.runState = .halted ↔ status = .halted := by
  cases status <;> simp [Status.runState]

theorem Status.runState_eq_endOfMemory_iff {status : Status} :
    status.runState = .endOfMemory ↔ status = .endOfMemory := by
  cases status <;> simp [Status.runState]

theorem Status.runState_eq_faultLatched_iff {status : Status} {code : FaultCode} :
    status.runState = .faultLatched code ↔
      ∃ fault, status = .faulted fault ∧ fault.code = code := by
  cases status <;> simp [Status.runState]

theorem Status.fault?_eq_some_iff {status : Status} {fault : Fault} :
    status.fault? = some fault ↔ status = .faulted fault := by
  cases status <;> simp [Status.fault?]

theorem Status.ne_running_of_result? {status : Status} {steps : Nat} {result : RunResult}
    (answered : status.result? steps = some result) : status ≠ .running := by
  rintro rfl
  cases answered

theorem Status.exists_result {status : Status} (stopped : status ≠ .running) (steps : Nat) :
    ∃ result, status.result? steps = some result :=
  Option.ne_none_iff_exists'.1 fun none => stopped (Status.result?_eq_none_iff.1 none)

section Steps

variable {σ : Type} [Console σ] {machine : Machine}

/-- A stopped machine answers a step with its status, and nothing changes. -/
theorem Machine.step_of_stopped {outcome : StepOutcome}
    (stopped : machine.status.outcome? = some outcome) (host : Host σ) :
    machine.step host = (outcome, machine, host) := by
  unfold Machine.step
  cases status : machine.status with
  | running =>
      rw [status] at stopped
      cases stopped
  | halted =>
      rw [status] at stopped
      cases stopped
      rfl
  | endOfMemory =>
      rw [status] at stopped
      cases stopped
      rfl
  | faulted fault =>
      rw [status] at stopped
      cases stopped
      rfl

/-- A step does the same with a console of which the attempt is the same. -/
theorem Machine.step_mapConsole {τ : Type} [Console τ] (change : σ → τ) (host : Host σ)
    (same : machine.attempt (change host.console) =
      ((machine.attempt host.console).1, change (machine.attempt host.console).2)) :
    machine.step (host.mapConsole change) =
      ((machine.step host).1, (machine.step host).2.1,
        (machine.step host).2.2.mapConsole change) := by
  rcases stopped : machine.status.outcome? with _ | outcome
  · have running := Status.outcome?_eq_none_iff.1 stopped
    simp only [Machine.step, running, Host.console_present, Host.console_mapConsole,
      Host.mapConsole_observe, same]
    rw [← Host.mapConsole_present]
    rfl
  · rw [Machine.step_of_stopped stopped, Machine.step_of_stopped stopped]

theorem Machine.commit_status (machine : Machine) (effects : Effects) :
    (machine.commit effects).status = machine.status := rfl

/-- After an attempt a machine goes on, and the instruction is retired, or its status tells the
outcome. -/
theorem Machine.running_or_outcome?_after (running : machine.status = .running)
    (attempt : Attempt) :
    ((machine.after attempt).status = .running ∧
        (∃ opcode, (machine.after attempt).outcome attempt = .retired opcode)) ∨
      (machine.after attempt).status.outcome? = some ((machine.after attempt).outcome attempt) := by
  cases attempt with
  | outside => exact .inr rfl
  | unreadable code => exact .inr rfl
  | refused instruction code => exact .inr rfl
  | completed instruction effects =>
      cases halts : effects.halts with
      | true =>
          right
          simp [Machine.after, Machine.outcome, halts, Status.outcome?]
      | false =>
          by_cases outside : memorySize ≤ (machine.commit effects).ip
          · right
            simp [Machine.after, Machine.outcome, halts, outside, Status.outcome?]
          · left
            simp [Machine.after, Machine.outcome, halts, outside, Machine.commit_status, running]

/-- A step leaves a machine that goes on, and retires an instruction, or a machine whose status
tells the outcome of the step. -/
theorem Machine.running_or_outcome?_step (machine : Machine) (host : Host σ) :
    ((machine.step host).2.1.status = .running ∧
        (∃ opcode, (machine.step host).1 = .retired opcode)) ∨
      (machine.step host).2.1.status.outcome? = some (machine.step host).1 := by
  rcases stopped : machine.status.outcome? with _ | outcome
  · have running := Status.outcome?_eq_none_iff.1 stopped
    rw [Machine.step_outcome_of_running running, Machine.step_machine_of_running running]
    exact Machine.running_or_outcome?_after running _
  · rw [Machine.step_of_stopped stopped]
    exact .inr stopped

end Steps

/-! ## Counting steps -/

section Ticks

variable {σ : Type} [Console σ]

/-- A machine with its host one step later. -/
def Machine.tick (state : Machine × Host σ) : Machine × Host σ := (state.1.step state.2).2

/-- The outcome of the next step. -/
def Machine.nextOutcome (state : Machine × Host σ) : StepOutcome := (state.1.step state.2).1

variable {state : Machine × Host σ}

theorem Machine.console_tick (running : state.1.status = .running) :
    (Machine.tick state).2.console = (state.1.attempt state.2.console).2 :=
  Machine.step_console_of_running running state.2

theorem Machine.tick_of_stopped (stopped : state.1.status ≠ .running) :
    Machine.tick state = state := by
  obtain ⟨outcome, answered⟩ := Option.ne_none_iff_exists'.1
    fun none => stopped (Status.outcome?_eq_none_iff.1 none)
  rw [Machine.tick, Machine.step_of_stopped answered]

theorem Machine.iterate_tick_of_stopped (stopped : state.1.status ≠ .running) (count : Nat) :
    Machine.tick^[count] state = state :=
  Function.iterate_fixed (Machine.tick_of_stopped stopped) count

/-- A machine that goes on after some steps has gone on all the time. -/
theorem Machine.running_of_iterate_tick {early count : Nat} (before : early ≤ count)
    (running : (Machine.tick^[count] state).1.status = .running) :
    (Machine.tick^[early] state).1.status = .running := by
  by_contra stopped
  rw [← Nat.sub_add_cancel before, Function.iterate_add_apply,
    Machine.iterate_tick_of_stopped stopped] at running
  exact stopped running

theorem Machine.iterate_tick_of_stopped_of_le {early count : Nat} (before : early ≤ count)
    (stopped : (Machine.tick^[early] state).1.status ≠ .running) :
    Machine.tick^[count] state = Machine.tick^[early] state := by
  rw [← Nat.sub_add_cancel before, Function.iterate_add_apply,
    Machine.iterate_tick_of_stopped stopped]

/-- Where a machine has stopped does not depend on how many steps it was given. -/
theorem Machine.iterate_tick_eq_of_stopped {one other : Nat}
    (oneStopped : (Machine.tick^[one] state).1.status ≠ .running)
    (otherStopped : (Machine.tick^[other] state).1.status ≠ .running) :
    Machine.tick^[one] state = Machine.tick^[other] state := by
  rcases Nat.le_total one other with before | before
  · exact (Machine.iterate_tick_of_stopped_of_le before oneStopped).symm
  · exact Machine.iterate_tick_of_stopped_of_le before otherStopped

theorem Machine.config_after (machine : Machine) (attempt : Attempt) :
    (machine.after attempt).config = machine.config := by
  cases attempt with
  | outside => rfl
  | unreadable code => rfl
  | refused instruction code => rfl
  | completed instruction effects =>
      obtain ⟨status, left⟩ := machine.after_completed instruction effects
      rw [left]
      rfl

/-- An attempt counts as a step if its instruction is done, and only then. -/
theorem Machine.steps_after (machine : Machine) (attempt : Attempt) :
    (machine.after attempt).steps = machine.steps + 1 ∨
      (machine.after attempt).steps = machine.steps ∧
        (machine.after attempt).status ≠ .running := by
  cases attempt with
  | outside => exact .inr ⟨rfl, nofun⟩
  | unreadable code => exact .inr ⟨rfl, nofun⟩
  | refused instruction code => exact .inr ⟨rfl, nofun⟩
  | completed instruction effects =>
      obtain ⟨status, committed⟩ := machine.after_completed instruction effects
      left
      rw [committed]
      rfl

theorem Machine.config_tick (state : Machine × Host σ) :
    (Machine.tick state).1.config = state.1.config := by
  by_cases running : state.1.status = .running
  · rw [Machine.tick, Machine.step_machine_of_running running, Machine.config_after]
  · rw [Machine.tick_of_stopped running]

theorem Machine.steps_tick (state : Machine × Host σ) :
    (Machine.tick state).1.steps = state.1.steps + 1 ∨
      (Machine.tick state).1.steps = state.1.steps ∧ (Machine.tick state).1.status ≠ .running := by
  by_cases running : state.1.status = .running
  · rw [Machine.tick, Machine.step_machine_of_running running]
    exact Machine.steps_after _ _
  · rw [Machine.tick_of_stopped running]
    exact .inr ⟨rfl, running⟩

theorem Machine.config_iterate_tick (state : Machine × Host σ) (count : Nat) :
    (Machine.tick^[count] state).1.config = state.1.config := by
  induction count with
  | zero => rfl
  | succ count ih => rw [Function.iterate_succ_apply', Machine.config_tick, ih]

/-- A machine that still goes on has retired as many instructions as it was given steps. -/
theorem Machine.steps_iterate_tick {count : Nat}
    (running : (Machine.tick^[count] state).1.status = .running) :
    (Machine.tick^[count] state).1.steps = state.1.steps + count := by
  induction count with
  | zero => rfl
  | succ count ih =>
      have before := Machine.running_of_iterate_tick (Nat.le_succ count) running
      rw [Function.iterate_succ_apply'] at running ⊢
      rcases Machine.steps_tick (Machine.tick^[count] state) with counted | ⟨_, stopped⟩
      · rw [counted, ih before, Nat.add_assoc]
      · exact absurd running stopped

/-- A machine retires no more instructions than it is given steps. -/
theorem Machine.steps_iterate_tick_bounds (state : Machine × Host σ) (count : Nat) :
    state.1.steps ≤ (Machine.tick^[count] state).1.steps ∧
      (Machine.tick^[count] state).1.steps ≤ state.1.steps + count := by
  induction count with
  | zero => exact ⟨Nat.le_refl _, Nat.le_refl _⟩
  | succ count ih =>
      rw [Function.iterate_succ_apply']
      rcases Machine.steps_tick (Machine.tick^[count] state) with counted | ⟨kept, _⟩ <;> omega

end Ticks

/-! ## Runs that answer -/

section Runs

variable {σ : Type} [Console σ] {machine : Machine} {start : Nat}

/-- A run of the machine answers within a number of attempts, and leaves this machine and host
behind; more attempts make no difference. -/
def Machine.Answers (machine : Machine) (host : Host σ) (attempts : Nat) (result : RunResult)
    (next : Machine) (after : Host σ) : Prop :=
  ∀ more, machine.runFor (attempts + more) host = (some result, next, after)

theorem Machine.Answers.run_eq {host after : Host σ} {attempts : Nat} {result : RunResult}
    {next : Machine} (answers : machine.Answers host attempts result next after)
    (few : attempts ≤ Machine.patience) : machine.run host = (some result, next, after) := by
  rw [Machine.run, ← Nat.add_sub_cancel' few]
  exact answers _

theorem Machine.runFrom_of_atLimit (paused : machine.atLimit start = true) (fuel : Nat)
    (host : Host σ) :
    machine.runFrom start (fuel + 1) host =
      (some (.stopped .stepLimit (machine.steps - start)), machine, host) := by
  rw [Machine.runFrom, if_pos paused]

/-- One more attempt of a run takes one step, and the run answers if that leaves a stopped
machine. -/
theorem Machine.runFrom_tick (free : machine.atLimit start = false) (fuel : Nat) (host : Host σ) :
    machine.runFrom start (fuel + 1) host =
      match (Machine.tick (machine, host)).1.status.result?
          ((Machine.tick (machine, host)).1.steps - start) with
      | some result => (some result, Machine.tick (machine, host))
      | none =>
        (Machine.tick (machine, host)).1.runFrom start fuel (Machine.tick (machine, host)).2 := by
  have outcome := machine.running_or_outcome?_step host
  have left : Machine.tick (machine, host) = (machine.step host).2 := rfl
  rw [Machine.runFrom, if_neg (by rw [free]; exact Bool.false_ne_true), left]
  rcases stepped : machine.step host with ⟨answer, next, after⟩
  rw [stepped] at outcome
  dsimp only at outcome ⊢
  rcases outcome with ⟨running, opcode, rfl⟩ | stopped
  · rw [running]
    rfl
  · cases status : next.status with
    | running =>
        rw [status] at stopped
        cases stopped
    | halted =>
        rw [status] at stopped
        cases stopped
        rfl
    | endOfMemory =>
        rw [status] at stopped
        cases stopped
        rfl
    | faulted fault =>
        rw [status] at stopped
        cases stopped
        rfl

theorem Machine.atLimit_of_stopped (stopped : machine.status ≠ .running)
    (start : Nat) : machine.atLimit start = false := by
  rw [Machine.atLimit]
  cases status : machine.status with
  | running => exact absurd status stopped
  | halted => rfl
  | endOfMemory => rfl
  | faulted fault => rfl

/-- A run of a stopped machine answers at once, and nothing changes. -/
theorem Machine.answers_of_result? {result : RunResult}
    (stopped : machine.status.result? 0 = some result) (host : Host σ) :
    machine.Answers host 1 result machine host := by
  have ended := Status.ne_running_of_result? stopped
  intro more
  rw [Machine.runFor, Nat.add_comm, Machine.runFrom_tick (Machine.atLimit_of_stopped ended _),
    Machine.tick_of_stopped ended, Nat.sub_self, stopped]

end Runs

end TwoStack
