import TwoStack.Proofs.Machine.Atomicity
import TwoStack.Proofs.Machine.Effects
import TwoStack.Proofs.Machine.StepLimit
import TwoStack.Proofs.Stack.Underlaid

/-!
# The stack frame rule

An instruction looks at the stacks from the top and never asks how deep they are, except to find
that an operand is missing or that there is no room.  So a machine does not notice what is put
beneath its stacks: with a base beneath them (`Machine.Underlaid`) it takes the same steps, until a
step fails for one of these two reasons (`Machine.stack_frame_rule`).

`Follows` compares the checks of the two machines one by one.  They come to the same, or the check
of the machine without the base fails with a code that tells something about a depth
(`FaultCode.TellsDepth`).  A missing operand tells nothing if there is no base, because then the two
stacks have the same entries.
-/

namespace TwoStack

/-! ## With a base beneath the stacks -/

/-- What is put beneath the two stacks of a machine; both are listed bottom first. -/
structure Machine.Base where
  data : List Word
  returns : List Nat

/-- The snapshot with the base beneath its stacks. -/
def Snapshot.withBase (base : Machine.Base) (snapshot : Snapshot) : Snapshot :=
  { snapshot with
    dataStack := base.data.toArray ++ snapshot.dataStack
    returnStack := base.returns.toArray ++ snapshot.returnStack }

/-- The same fault at the same address, with the base in the snapshot. -/
def Fault.withBase (base : Machine.Base) (fault : Fault) : Fault :=
  { fault with snapshot := fault.snapshot.withBase base }

def Status.withBase (base : Machine.Base) : Status → Status
  | running => running
  | halted => halted
  | endOfMemory => endOfMemory
  | faulted fault => faulted (fault.withBase base)

def StepOutcome.withBase (base : Machine.Base) : StepOutcome → StepOutcome
  | retired opcode => retired opcode
  | halted => halted
  | endOfMemory => endOfMemory
  | faulted fault => faulted (fault.withBase base)

def RunResult.withBase (base : Machine.Base) : RunResult → RunResult
  | stopped boundary steps => stopped boundary steps
  | faulted fault => faulted (fault.withBase base)

/-- The taller machine is the other one with the base beneath its stacks, which have at least as
much room above.  Of the configurations nothing is said: a step does not look at them. -/
structure Machine.Underlaid (base : Machine.Base) (machine taller : Machine) : Prop where
  memory : taller.memory = machine.memory
  data : Stack.Underlaid base.data machine.data taller.data
  returns : Stack.Underlaid base.returns machine.returns taller.returns
  ip : taller.ip = machine.ip
  steps : taller.steps = machine.steps
  status : taller.status = machine.status.withBase base

section WithBase

variable {base : Machine.Base}

theorem Snapshot.withBase_nil (snapshot : Snapshot) : snapshot.withBase ⟨[], []⟩ = snapshot := by
  simp [Snapshot.withBase]

theorem StepOutcome.withBase_nil (outcome : StepOutcome) : outcome.withBase ⟨[], []⟩ = outcome := by
  cases outcome <;> simp [StepOutcome.withBase, Fault.withBase, Snapshot.withBase_nil]

theorem RunResult.withBase_nil (result : RunResult) : result.withBase ⟨[], []⟩ = result := by
  cases result <;> simp [RunResult.withBase, Fault.withBase, Snapshot.withBase_nil]

theorem Status.withBase_eq_running_iff {status : Status} :
    status.withBase base = .running ↔ status = .running := by
  cases status <;> simp [Status.withBase]

theorem Status.runState_withBase (status : Status) :
    (status.withBase base).runState = status.runState := by
  cases status <;> rfl

theorem Status.outcome?_withBase (status : Status) :
    (status.withBase base).outcome? = status.outcome?.map (StepOutcome.withBase base) := by
  cases status <;> rfl

theorem Status.result?_withBase (status : Status) (steps : Nat) :
    (status.withBase base).result? steps =
      (status.result? steps).map (RunResult.withBase base) := by
  cases status <;> rfl

end WithBase

section Underlaid

variable {base : Machine.Base} {machine taller : Machine}

theorem Machine.Underlaid.snapshot_eq (beneath : Machine.Underlaid base machine taller) :
    taller.snapshot = machine.snapshot.withBase base := by
  have data : taller.data.entries = base.data.toArray ++ machine.data.entries :=
    Array.ext' (by simpa [Stack.toList] using beneath.data.entries)
  have returns : taller.returns.entries = base.returns.toArray ++ machine.returns.entries :=
    Array.ext' (by simpa [Stack.toList] using beneath.returns.entries)
  rw [Machine.snapshot, data, returns, beneath.ip, beneath.steps]
  rfl

theorem Machine.Underlaid.running_iff (beneath : Machine.Underlaid base machine taller) :
    taller.status = .running ↔ machine.status = .running := by
  rw [beneath.status, Status.withBase_eq_running_iff]

/-- Both machines get a status. -/
theorem Machine.Underlaid.withStatus (beneath : Machine.Underlaid base machine taller)
    (status : Status) :
    Machine.Underlaid base { machine with status } { taller with status := status.withBase base } :=
  { beneath with status := rfl }

/-! ## Checks -/

/-- The codes of checks that may come out differently with the base beneath the stacks. -/
def FaultCode.TellsDepth (base : Machine.Base) : FaultCode → Prop
  | dataStackUnderflow => base.data ≠ []
  | instructionStackUnderflow => base.returns ≠ []
  | stackOverflow => True
  | addressOutOfBounds _ | unknownOpcode _ | truncatedOperand | malformedInput | outputFailed => False

/-- Only a fault of the stacks tells how deep they are. -/
theorem FaultCode.TellsDepth.faultClass_eq {code : FaultCode} (tells : code.TellsDepth base) :
    code.faultClass = .stack := by
  cases code <;> first | rfl | exact tells.elim

/-- Without a base the entries are the same, and only the room differs. -/
theorem FaultCode.TellsDepth.eq_stackOverflow {code : FaultCode}
    (tells : code.TellsDepth ⟨[], []⟩) : code = .stackOverflow := by
  cases code with
  | stackOverflow => rfl
  | dataStackUnderflow => exact absurd rfl tells
  | instructionStackUnderflow => exact absurd rfl tells
  | _ => exact tells.elim

/-- The second check comes to the same as the first, unless the first fails in a way that tells
something about a depth. -/
def Follows {α : Type} (base : Machine.Base) (first second : Except FaultCode α) : Prop :=
  second = first ∨ ∃ code, first = .error code ∧ code.TellsDepth base

theorem Follows.refl {α : Type} (result : Except FaultCode α) : Follows base result result :=
  .inl rfl

theorem Follows.bind {α β : Type} {first second : Except FaultCode α}
    {next : α → Except FaultCode β} (start : Follows base first second)
    {other : α → Except FaultCode β} (rest : ∀ value, Follows base (next value) (other value)) :
    Follows base (first >>= next) (second >>= other) := by
  rcases start with rfl | ⟨code, failed, tells⟩
  · cases second with
    | error code => exact .refl _
    | ok value => exact rest value
  · exact .inr ⟨code, bind_eq_error_iff.2 (.inl failed), tells⟩

theorem Machine.Underlaid.operand_follows (beneath : Machine.Underlaid base machine taller)
    (below : Nat) : Follows base (machine.operand below) (taller.operand below) := by
  rcases beneath.data.peek?_eq_or below with same | ⟨missing, under⟩
  · left
    rw [Machine.operand, Machine.operand, same]
  · right
    rw [Machine.operand, missing]
    exact ⟨_, rfl, under⟩

theorem Stack.Underlaid.requireRoom_follows {α : Type} {under : List α} {stack taller : Stack α}
    (beneath : Stack.Underlaid under stack taller) :
    Follows base (Machine.requireRoom stack) (Machine.requireRoom taller) := by
  by_cases room : stack.depth < stack.capacity
  · left
    rw [Machine.requireRoom_of_lt room, Machine.requireRoom_of_lt (beneath.hasRoom room)]
  · right
    rw [Machine.requireRoom_eq, Stack.length_topFirst, if_neg room]
    exact ⟨_, rfl, trivial⟩

/-- The plan of an instruction is the same with the base beneath the stacks, unless it is refused
in a way that tells something about a depth. -/
theorem Machine.Underlaid.plan_follows (beneath : Machine.Underlaid base machine taller)
    (instruction : Instruction) :
    Follows base (machine.plan instruction) (taller.plan instruction) := by
  have operand := beneath.operand_follows
  have dataRoom : Follows base _ _ := beneath.data.requireRoom_follows
  have returnRoom : Follows base _ _ := beneath.returns.requireRoom_follows
  have top := beneath.returns.peek?_eq_or 0
  rw [← Stack.top?_eq, ← Stack.top?_eq] at top
  -- memory and instruction pointer are the same, and the stacks are looked at by these checks only
  rcases machine with ⟨memory, data, returns, ip, steps, status, config⟩
  rcases taller with ⟨_, tallerData, tallerReturns, _, _, _, tallerConfig⟩
  obtain ⟨rfl, _, _, rfl, _, _⟩ := beneath
  dsimp only at dataRoom returnRoom top
  rcases instruction with ⟨opcode, word⟩
  cases opcode with
  | nop => exact .refl _
  | binary op => exact (operand 0).bind fun _ => (operand 1).bind fun _ => .refl _
  | unary op => exact (operand 0).bind fun _ => .refl _
  | jmp => exact (operand 0).bind fun _ => .refl _
  | jz => exact (operand 0).bind fun _ => (operand 1).bind fun _ => .refl _
  | jnz => exact (operand 0).bind fun _ => (operand 1).bind fun _ => .refl _
  | push => exact dataRoom.bind fun _ => .refl _
  | rm => exact (operand 0).bind fun _ => .refl _
  | pushIp =>
      refine (operand 0).bind fun target => ?_
      by_cases negative : target < 0
      · rw [if_pos negative, if_pos negative]
        exact .refl _
      · rw [if_neg negative, if_neg negative]
        exact returnRoom.bind fun _ => .refl _
  | popIp =>
      rcases top with same | ⟨missing, under⟩
      · left
        rw [Machine.plan, Machine.plan, same]
      · right
        rw [Machine.plan, missing]
        exact ⟨_, rfl, under⟩
  | rmIp =>
      rcases top with same | ⟨missing, under⟩
      · left
        rw [Machine.plan, Machine.plan, Stack.isEmpty_eq_top?, Stack.isEmpty_eq_top?, same]
      · right
        rw [Machine.plan, Stack.isEmpty_eq_top?, missing]
        exact ⟨_, rfl, under⟩
  | pushPm => exact (operand 0).bind fun _ => .refl _
  | popPm => exact (operand 0).bind fun _ => (operand 1).bind fun _ => .refl _
  | input => exact dataRoom.bind fun _ => .refl _
  | peek => exact (operand 0).bind fun _ => .refl _
  | halt => exact .refl _

end Underlaid

/-! ## Steps -/

section Steps

variable {σ : Type} [Console σ] {base : Machine.Base} {machine taller : Machine}

/-- Both machines make the same attempt with the same console. -/
theorem Machine.Underlaid.attempt_eq (beneath : Machine.Underlaid base machine taller) {console : σ}
    (clean : ∀ code, (machine.attempt console).1.code? = some code → ¬code.TellsDepth base) :
    taller.attempt console = machine.attempt console := by
  cases decoded : Instruction.decode machine.memory.bytes machine.ip with
  | error cause =>
      rw [Machine.attempt, Machine.attempt, beneath.memory, beneath.ip, decoded]
      cases cause <;> rfl
  | ok instruction =>
      rcases beneath.plan_follows instruction with same | ⟨code, refused, tells⟩
      · rw [Machine.attempt, Machine.attempt, beneath.memory, beneath.ip, decoded]
        dsimp only
        rw [Machine.execute, Machine.execute, same]
      · have attempts : machine.Attempts console (.refused instruction code) console :=
          .refused decoded refused
        rw [attempts.attempt_eq] at clean
        exact absurd tells (clean code rfl)

theorem Machine.Underlaid.commit (beneath : Machine.Underlaid base machine taller)
    {effects : Effects} (admits : machine.Admits effects) :
    Machine.Underlaid base (machine.commit effects) (taller.commit effects) := by
  rcases effects with ⟨pops, push, back, write, next, halts⟩
  rcases machine with ⟨memory, data, returns, ip, steps, status, config⟩
  rcases taller with ⟨_, tallerData, tallerReturns, _, _, tallerStatus, tallerConfig⟩
  obtain ⟨rfl, dataBeneath, returnsBeneath, rfl, rfl, sameStatus⟩ := beneath
  have dropped := dataBeneath.drop admits.pops
  refine ⟨rfl, ?_, ?_, rfl, rfl, sameStatus⟩
  · cases push with
    | none => exact dropped
    | some word => exact dropped.push (admits.push word rfl) word
  · cases back with
    | keep => exact returnsBeneath
    | push address => exact returnsBeneath.push (admits.back address rfl) address
    | pop => exact returnsBeneath.pop (admits.held rfl)

theorem Machine.Underlaid.raise (beneath : Machine.Underlaid base machine taller)
    (code : FaultCode) : Machine.Underlaid base (machine.raise code) (taller.raise code) := by
  have latched := beneath.withStatus (.faulted ⟨code, machine.ip, machine.snapshot⟩)
  rw [Status.withBase, Fault.withBase, ← beneath.snapshot_eq, ← beneath.ip] at latched
  rw [Machine.raise, Machine.raise, ← beneath.ip]
  exact latched

theorem Machine.Underlaid.after (beneath : Machine.Underlaid base machine taller)
    {console next : σ} {attempt : Attempt} (attempts : machine.Attempts console attempt next) :
    Machine.Underlaid base (machine.after attempt) (taller.after attempt) := by
  cases attempt with
  | outside => exact beneath.withStatus .endOfMemory
  | unreadable code => exact beneath.raise code
  | refused instruction code => exact beneath.raise code
  | completed instruction effects =>
      have committed := beneath.commit attempts.admits
      simp only [Machine.after, committed.ip]
      split
      · exact committed.withStatus .halted
      · split
        · exact committed.withStatus .endOfMemory
        · exact committed

theorem Machine.Underlaid.outcome_eq (beneath : Machine.Underlaid base machine taller)
    (attempt : Attempt) : taller.outcome attempt = (machine.outcome attempt).withBase base := by
  cases attempt with
  | outside => rfl
  | unreadable code =>
      rw [Machine.outcome, Machine.outcome, beneath.ip, beneath.snapshot_eq]
      rfl
  | refused instruction code =>
      rw [Machine.outcome, Machine.outcome, beneath.ip, beneath.snapshot_eq]
      rfl
  | completed instruction effects =>
      simp only [Machine.outcome, beneath.ip]
      split
      · rfl
      · split <;> rfl

/-- One machine takes a step as the other one does: the outcome is the same, the base is still
beneath the stacks, and the console has been treated in the same way. -/
structure Machine.StepsAbove (base : Machine.Base) (low high : Machine × Host σ) : Prop where
  outcome : Machine.nextOutcome high = (Machine.nextOutcome low).withBase base
  machine : Machine.Underlaid base (Machine.tick low).1 (Machine.tick high).1
  console : (Machine.tick high).2.console = (Machine.tick low).2.console

/-- A step does not look beneath the stacks. -/
theorem Machine.Underlaid.step (beneath : Machine.Underlaid base machine taller)
    {host other : Host σ} (same : other.console = host.console)
    (clean : ∀ fault, (machine.step host).1 = .faulted fault → ¬fault.code.TellsDepth base) :
    Machine.StepsAbove base (machine, host) (taller, other) := by
  rcases stopped : machine.status.outcome? with _ | outcome
  · have running := Status.outcome?_eq_none_iff.1 stopped
    have tallerRunning := beneath.running_iff.2 running
    have attempts := machine.attempts host.console
    have after := beneath.after attempts
    have followed : taller.attempt other.console = machine.attempt host.console := by
      rw [same]
      refine beneath.attempt_eq fun code raised => ?_
      refine clean ⟨code, machine.ip, machine.snapshot⟩ ?_
      rw [Machine.step_outcome_of_running running]
      generalize (machine.attempt host.console).1 = attempt at raised
      cases attempt <;> cases raised <;> rfl
    refine ⟨?_, ?_, ?_⟩
    · rw [Machine.nextOutcome, Machine.nextOutcome, Machine.step_outcome_of_running running,
        Machine.step_outcome_of_running tallerRunning, followed]
      exact after.outcome_eq _
    · rw [Machine.tick, Machine.tick, Machine.step_machine_of_running running,
        Machine.step_machine_of_running tallerRunning, followed]
      exact after
    · rw [Machine.tick, Machine.tick, Machine.step_console_of_running running,
        Machine.step_console_of_running tallerRunning, followed]
  · have tallerStopped : taller.status.outcome? = some (outcome.withBase base) := by
      rw [beneath.status, Status.outcome?_withBase, stopped]
      rfl
    have still := Machine.step_of_stopped stopped host
    have tallerStill := Machine.step_of_stopped tallerStopped other
    refine ⟨?_, ?_, ?_⟩
    · rw [Machine.nextOutcome, Machine.nextOutcome, still, tallerStill]
    · rw [Machine.tick, Machine.tick, still, tallerStill]
      exact beneath
    · rw [Machine.tick, Machine.tick, still, tallerStill]
      exact same

/-- The step asks the same of the console. -/
theorem Machine.Underlaid.requests_eq (beneath : Machine.Underlaid base machine taller)
    {host other : Host σ} (same : other.console = host.console)
    (clean : ∀ fault, (machine.step host).1 = .faulted fault → ¬fault.code.TellsDepth base) :
    taller.requests other = machine.requests host := by
  have recorded := machine.step_forget host.recorded
  rw [Host.forget_recorded] at recorded
  rw [recorded] at clean
  have sameRecorded : other.recorded.console = host.recorded.console := by
    rw [Host.recorded, Host.recorded, same]
  have steps := beneath.step sameRecorded clean
  exact congrArg Recorded.requests steps.console

end Steps

/-! ## Courses -/

section Courses

variable {σ : Type} [Console σ] {base : Machine.Base}

/-- No fault in the next `count` steps tells anything about a depth. -/
def Machine.CleanFor (base : Machine.Base) (state : Machine × Host σ) (count : Nat) : Prop :=
  ∀ i < count, ∀ fault,
    Machine.nextOutcome (Machine.tick^[i] state) = .faulted fault → ¬fault.code.TellsDepth base

/-- During the next `count` steps one machine takes the same course as the other: every step has the
same outcome and asks the same of the console, and before and after every step the base is beneath
the stacks and everything else is the same. -/
structure Machine.StaysAbove (base : Machine.Base) (low high : Machine × Host σ) (count : Nat) :
    Prop where
  outcomes : ∀ i < count, Machine.nextOutcome (Machine.tick^[i] high) =
    (Machine.nextOutcome (Machine.tick^[i] low)).withBase base
  requests : ∀ i < count, (Machine.tick^[i] high).1.requests (Machine.tick^[i] high).2 =
    (Machine.tick^[i] low).1.requests (Machine.tick^[i] low).2
  machines : ∀ i ≤ count,
    Machine.Underlaid base (Machine.tick^[i] low).1 (Machine.tick^[i] high).1
  consoles : ∀ i ≤ count, (Machine.tick^[i] high).2.console = (Machine.tick^[i] low).2.console

variable {low high : Machine × Host σ}

theorem Machine.Underlaid.staysAbove (beneath : Machine.Underlaid base low.1 high.1)
    (same : high.2.console = low.2.console) {count : Nat}
    (clean : Machine.CleanFor base low count) : Machine.StaysAbove base low high count := by
  -- the two states that the step lemma needs, before every step
  have states : ∀ i ≤ count,
      Machine.Underlaid base (Machine.tick^[i] low).1 (Machine.tick^[i] high).1 ∧
        (Machine.tick^[i] high).2.console = (Machine.tick^[i] low).2.console := by
    intro i within
    induction i with
    | zero => exact ⟨beneath, same⟩
    | succ i ih =>
        obtain ⟨under, together⟩ := ih (Nat.le_of_succ_le within)
        have steps := under.step together (clean i within)
        rw [Function.iterate_succ_apply', Function.iterate_succ_apply']
        exact ⟨steps.machine, steps.console⟩
  refine ⟨fun i before => ?_, fun i before => ?_, fun i within => (states i within).1,
    fun i within => (states i within).2⟩
  · obtain ⟨under, together⟩ := states i (Nat.le_of_lt before)
    exact (under.step together (clean i before)).outcome
  · obtain ⟨under, together⟩ := states i (Nat.le_of_lt before)
    exact under.requests_eq together (clean i before)

/-! ## Runs -/

/-- The ends of two runs: the result is the same, and so is everything else, with the base beneath
the stacks. -/
structure Machine.EndsAbove (base : Machine.Base) (low high : Option RunResult × Machine × Host σ) :
    Prop where
  result : high.1 = low.1.map (RunResult.withBase base)
  machine : Machine.Underlaid base low.2.1 high.2.1
  console : high.2.2.console = low.2.2.console

end Courses

section Runs

variable {σ : Type} [Console σ] {base : Machine.Base} {machine taller : Machine}
  {host other : Host σ} {start fuel : Nat}

omit [Console σ] in
theorem Machine.Underlaid.atLimit_eq (beneath : Machine.Underlaid base machine taller)
    (limits : taller.config.maxSteps = machine.config.maxSteps) (start : Nat) :
    taller.atLimit start = machine.atLimit start := by
  rw [Machine.atLimit, Machine.atLimit, beneath.status, Status.runState_withBase, beneath.steps,
    limits]

/-- A step that raises a fault ends a run with it. -/
theorem Machine.runFrom_of_faulted {fault : Fault} (free : machine.atLimit start = false)
    (faulted : (machine.step host).1 = .faulted fault) :
    (machine.runFrom start (fuel + 1) host).1 = some (.faulted fault) := by
  rw [Machine.runFrom, if_neg (by rw [free]; exact Bool.false_ne_true)]
  rcases stepped : machine.step host with ⟨outcome, next, after⟩
  rw [stepped] at faulted
  dsimp only at faulted ⊢
  rw [faulted]

/-- A run does not look beneath the stacks. -/
theorem Machine.Underlaid.endsAbove (beneath : Machine.Underlaid base machine taller)
    (same : other.console = host.console)
    (limits : taller.config.maxSteps = machine.config.maxSteps)
    (clean : ∀ fault, (machine.runFrom start fuel host).1 = some (.faulted fault) →
      ¬fault.code.TellsDepth base) :
    Machine.EndsAbove base (machine.runFrom start fuel host) (taller.runFrom start fuel other) := by
  induction fuel generalizing machine taller host other with
  | zero => exact ⟨rfl, beneath, same⟩
  | succ fuel ih =>
      have limit := beneath.atLimit_eq limits start
      cases paused : machine.atLimit start with
      | true =>
          rw [Machine.runFrom_of_atLimit paused, Machine.runFrom_of_atLimit (limit.trans paused),
            beneath.steps]
          exact ⟨rfl, beneath, same⟩
      | false =>
          have steps := beneath.step same fun fault faulted =>
            clean fault (Machine.runFrom_of_faulted paused faulted)
          rw [Machine.runFrom_tick paused] at clean ⊢
          rw [Machine.runFrom_tick (limit.trans paused), steps.machine.steps, steps.machine.status,
            Status.result?_withBase]
          rcases ended : (Machine.tick (machine, host)).1.status.result?
              ((Machine.tick (machine, host)).1.steps - start) with _ | result
          · rw [ended] at clean
            refine ih steps.machine steps.console ?_ clean
            rw [Machine.config_tick, Machine.config_tick, limits]
          · exact ⟨rfl, steps.machine, steps.console⟩

end Runs

/-! ## The rule -/

/-- What is put beneath the stacks of a machine makes no difference to its steps, as long as none of
them fails for the stacks.  If nothing is put there and the stacks only get larger, it makes no
difference to the steps, or to a run with the same limit, as long as there is no overflow. -/
theorem Machine.stack_frame_rule {σ : Type} [Console σ] {base : Machine.Base}
    {machine taller : Machine} (beneath : Machine.Underlaid base machine taller)
    (host other : Host σ) (same : other.console = host.console) :
    (∀ count,
      (∀ i < count, ∀ fault,
        Machine.nextOutcome (Machine.tick^[i] (machine, host)) = .faulted fault →
          fault.code.faultClass ≠ .stack) →
      Machine.StaysAbove base (machine, host) (taller, other) count) ∧
    (base = ⟨[], []⟩ →
      (∀ count,
        (∀ i < count, ∀ fault,
          Machine.nextOutcome (Machine.tick^[i] (machine, host)) = .faulted fault →
            fault.code ≠ .stackOverflow) →
        Machine.StaysAbove base (machine, host) (taller, other) count ∧
          ∀ i < count, Machine.nextOutcome (Machine.tick^[i] (taller, other)) =
            Machine.nextOutcome (Machine.tick^[i] (machine, host))) ∧
      (taller.config.maxSteps = machine.config.maxSteps → ∀ fuel,
        (∀ fault, (machine.runFor fuel host).1 = some (.faulted fault) →
          fault.code ≠ .stackOverflow) →
        (taller.runFor fuel other).1 = (machine.runFor fuel host).1 ∧
          Machine.EndsAbove base (machine.runFor fuel host) (taller.runFor fuel other))) := by
  refine ⟨fun count clean => ?_, ?_⟩
  · refine beneath.staysAbove same fun i before fault faulted tells => ?_
    exact clean i before fault faulted tells.faultClass_eq
  · rintro rfl
    refine ⟨fun count clean => ?_, fun limits fuel clean => ?_⟩
    · have stays : Machine.StaysAbove ⟨[], []⟩ (machine, host) (taller, other) count :=
        beneath.staysAbove same
          fun i before fault faulted tells => clean i before fault faulted tells.eq_stackOverflow
      refine ⟨stays, fun i before => ?_⟩
      rw [stays.outcomes i before, StepOutcome.withBase_nil]
    · have ends : Machine.EndsAbove ⟨[], []⟩ (machine.runFor fuel host)
          (taller.runFor fuel other) := by
        rw [Machine.runFor, Machine.runFor, beneath.steps]
        exact beneath.endsAbove same limits
          fun fault faulted tells => clean fault faulted tells.eq_stackOverflow
      have unchanged : RunResult.withBase ⟨[], []⟩ = id := funext RunResult.withBase_nil
      refine ⟨?_, ends⟩
      rw [ends.result, unchanged, Option.map_id, id]

/-- A program that puts a word on the data stack and takes it off again, over a base and on larger
stacks. -/
theorem Machine.stack_frame_rule_push_rm :
    let machine := Machine.load ⟨#[0x0D, 0, 0, 0, 5, 0x0E], by decide⟩ {}
    let host : Host Scripted := .ofConsole (Scripted.ofInputs []) (.empty ⟨[], none⟩)
    let taller : Machine :=
      { machine with data := ⟨5000, #[7], by decide⟩, returns := ⟨5000, #[3, 9], by decide⟩ }
    let larger : Machine := { machine with data := .empty 5000 }
    Machine.Underlaid ⟨[7], [3, 9]⟩ machine taller ∧ Machine.Underlaid ⟨[], []⟩ machine larger ∧
    (∀ i < 2, ∀ fault, Machine.nextOutcome (Machine.tick^[i] (machine, host)) = .faulted fault →
      fault.code.faultClass ≠ .stack) ∧
    Machine.StaysAbove ⟨[7], [3, 9]⟩ (machine, host) (taller, host) 2 ∧
    Machine.StaysAbove ⟨[], []⟩ (machine, host) (larger, host) 2 ∧
    (larger.runFor 2 host).1 = (machine.runFor 2 host).1 := by
  intro machine host taller larger
  have push : Instruction.decode machine.memory.bytes 0 = .ok ⟨.push, some 5⟩ :=
    (Instruction.wellFormed_push 5).decode_ofBytes (by decide) (by decide)
  have formed : Instruction.WellFormed ⟨.rm, none⟩ := Instruction.wellFormed_plain (by decide)
  have rm : Instruction.decode machine.memory.bytes 5 = .ok ⟨.rm, none⟩ :=
    formed.decode_ofBytes (by decide) (by decide)
  let middle := machine.commit { next := 5, push := some 5 }
  have listed : middle.data.topFirst = [5] := Stack.topFirst_push (by decide) 5
  have top : middle.operand 0 = .ok 5 := by
    rw [Machine.operand, Stack.peek?_eq_topFirst, listed]
    rfl
  have plansPush : machine.Plans ⟨.push, some 5⟩ { next := 5, push := some 5 } .none := .push rfl
  have plansRm : middle.Plans ⟨.rm, none⟩ { next := 6, pops := 1 } .none := .rm top
  obtain ⟨between, pushed, _⟩ := plansPush.step_eq rfl push rfl (by decide) host
  obtain ⟨after, removed, _⟩ := plansRm.step_eq rfl rm rfl (by decide) between
  have first : Machine.tick (machine, host) = (middle, between) := by rw [Machine.tick, pushed]
  have second : Machine.tick (middle, between) = (middle.commit { next := 6, pops := 1 }, after) :=
    by rw [Machine.tick, removed]
  have clean : ∀ i < 2, ∀ fault, Machine.nextOutcome (Machine.tick^[i] (machine, host)) =
      .faulted fault → fault.code.faultClass ≠ .stack := by
    intro i before fault faulted
    obtain rfl | rfl : i = 0 ∨ i = 1 := by omega
    · rw [Function.iterate_zero_apply, Machine.nextOutcome, pushed] at faulted
      cases faulted
    · rw [Function.iterate_one, first, Machine.nextOutcome, removed] at faulted
      cases faulted
  have running : (Machine.tick^[2] (machine, host)).1.status = .running := by
    rw [Function.iterate_succ_apply, first, Function.iterate_one, second]
    rfl
  have ran : (machine.runFor 2 host).1 = none :=
    congrArg Prod.fst (Machine.runFrom_iterate_tick running (fun _ limit => by cases limit) 0)
  have beneath : Machine.Underlaid ⟨[7], [3, 9]⟩ machine taller :=
    ⟨rfl, ⟨rfl, by decide⟩, ⟨rfl, by decide⟩, rfl, rfl, rfl⟩
  have nothing : Machine.Underlaid ⟨[], []⟩ machine larger :=
    ⟨rfl, ⟨rfl, by decide⟩, ⟨rfl, by decide⟩, rfl, rfl, rfl⟩
  have onBase := (Machine.stack_frame_rule beneath host host rfl).1 2 clean
  have onLarger := (Machine.stack_frame_rule nothing host host rfl).2 rfl
  refine ⟨beneath, nothing, clean, onBase,
    (onLarger.1 2 fun i before fault faulted overflow => ?_).1,
    (onLarger.2 rfl 2 fun fault faulted => ?_).1⟩
  · exact clean i before fault faulted (by rw [overflow]; rfl)
  · rw [ran] at faulted
    cases faulted

end TwoStack
