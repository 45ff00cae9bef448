import TwoStack.Proofs.Machine.Invariant
import TwoStack.Proofs.Machine.Simulation

/-!
# What observers see

Observers see the run and nothing else.  A screen is shown the frame buffer before each attempt, and
a trace is told about each attempt after it; a machine that has stopped shows and tells nothing.
`Machine.Course` lists the frames and the events of a series of steps, one case for each kind of
attempt.  Whatever a machine is told to do, its screen and its trace get exactly those
(`Machine.observers_see_the_run`), and without observers, or with others, everything else is the
same.

The events alone are a chain (`TraceEvent.Chain`): pairs of a start and a retirement, each from the
address where the one before it went, and at most one fault, which is the end.
-/

namespace TwoStack

/-! ## Events -/

/-- The sink that has been told one more event. -/
def TraceSink.hear : TraceSink → TraceEvent → TraceSink
  | recorder events, event => recorder (events.push event)
  | notes target, _ => notes target

/-- What a trace is told about an attempt at the instruction at `ip`, given the machine after it. -/
def Attempt.events (ip : Nat) (machine : Machine) : Attempt → List TraceEvent
  | outside => []
  | unreadable code => [.fault ip code]
  | refused instruction code => [.start ip instruction, .fault ip code]
  | completed instruction _ => [.start ip instruction, .retired ip machine.ip machine.data.depth]

/-- Events from an instruction pointer on: instructions that start and retire, each where the one
before it went, and at the end at most one fault, of an instruction that has started or of bytes
that are no instruction. -/
inductive TraceEvent.Chain : Nat → List TraceEvent → Prop
  | nil (ip : Nat) : Chain ip []
  | retired {ip next depth : Nat} {instruction : Instruction} {events : List TraceEvent}
    (more : Chain next events) :
    Chain ip (.start ip instruction :: .retired ip next depth :: events)
  | refused (ip : Nat) (instruction : Instruction) (code : FaultCode) :
    Chain ip [.start ip instruction, .fault ip code]
  | unreadable (ip : Nat) (code : FaultCode) : Chain ip [.fault ip code]

/-- Whether the event tells that an instruction is done. -/
def TraceEvent.isRetired : TraceEvent → Bool
  | retired .. => true
  | start .. | fault .. => false

/-- Whether the event tells that an instruction was refused. -/
def TraceEvent.isFault : TraceEvent → Bool
  | fault .. => true
  | start .. | retired .. => false

theorem TraceEvent.countP_isRetired_pair (ip place next depth : Nat) (instruction : Instruction)
    (events : List TraceEvent) :
    List.countP isRetired (.start ip instruction :: .retired place next depth :: events) =
      events.countP isRetired + 1 := by
  rw [List.countP_cons_of_neg Bool.false_ne_true, List.countP_cons_of_pos rfl]

theorem TraceEvent.countP_isFault_pair (ip place next depth : Nat) (instruction : Instruction)
    (events : List TraceEvent) :
    List.countP isFault (.start ip instruction :: .retired place next depth :: events) =
      events.countP isFault := by
  rw [List.countP_cons_of_neg Bool.false_ne_true, List.countP_cons_of_neg Bool.false_ne_true]

section Host

variable {σ : Type} (host : Host σ)

@[simp] theorem Host.screen_present (frame : Unit → Frame) :
    (host.present frame).screen = host.screen.map (·.present (frame ())) := by
  rcases host with ⟨console, _ | screen, trace, journal⟩ <;> rfl

@[simp] theorem Host.trace_present (frame : Unit → Frame) :
    (host.present frame).trace = host.trace := by
  rcases host with ⟨console, _ | screen, trace, journal⟩ <;> rfl

@[simp] theorem Host.screen_emit (event : TraceEvent) : (host.emit event).screen = host.screen := by
  rcases host with ⟨console, screen, _ | _ | _, journal⟩ <;> rfl

@[simp] theorem Host.trace_emit (event : TraceEvent) :
    (host.emit event).trace = host.trace.map (·.hear event) := by
  rcases host with ⟨console, screen, _ | _ | _, journal⟩ <;> rfl

@[simp] theorem Host.screen_note (level : Log.Level) (target : String) (text : Unit → String) :
    (host.note level target text).screen = host.screen := rfl

@[simp] theorem Host.trace_note (level : Log.Level) (target : String) (text : Unit → String) :
    (host.note level target text).trace = host.trace := rfl

theorem Host.screen_observe (ip : Nat) (attempt : Attempt) (machine : Machine) :
    (host.observe ip attempt machine).screen = host.screen := by
  cases attempt with
  | outside => rfl
  | unreadable code => simp [Host.observe, Host.faulted]
  | refused instruction code => simp [Host.observe, Host.faulted, Host.started]
  | completed instruction effects =>
      simp only [Host.observe, Host.started]
      split
      · simp
      · split <;> simp

theorem Host.trace_observe (ip : Nat) (attempt : Attempt) (machine : Machine) :
    (host.observe ip attempt machine).trace =
      host.trace.map ((attempt.events ip machine).foldl TraceSink.hear) := by
  cases attempt with
  | outside => simp [Host.observe, Attempt.events]
  | unreadable code => simp [Host.observe, Host.faulted, Attempt.events]
  | refused instruction code =>
      simp [Host.observe, Host.faulted, Host.started, Attempt.events, Function.comp_def]
  | completed instruction effects =>
      simp only [Host.observe, Host.started, Attempt.events]
      split
      · simp [Function.comp_def]
      · split <;> simp [Function.comp_def]

end Host

section Step

variable {σ : Type} [Console σ] {state : Machine × Host σ}

/-- A step shows the frame buffer as it is before the attempt. -/
theorem Machine.screen_tick (running : state.1.status = .running) :
    (Machine.tick state).2.screen = state.2.screen.map (·.present state.1.memory.frame) := by
  simp [Machine.tick, Machine.step, running, Host.screen_observe]

theorem Machine.trace_tick (running : state.1.status = .running) {attempt : Attempt}
    (attempted : (state.1.attempt state.2.console).1 = attempt) :
    (Machine.tick state).2.trace =
      state.2.trace.map ((attempt.events state.1.ip (Machine.tick state).1).foldl
        TraceSink.hear) := by
  simp [Machine.tick, Machine.step, running, Host.trace_observe, attempted]

end Step

/-! ## Courses -/

/-- The frames and the events of a number of steps, one case for each kind of attempt that a running
machine can make.  Once a machine has stopped there are no more. -/
inductive Machine.Course {σ : Type} [Console σ] :
    Machine × Host σ → List Frame → List TraceEvent → Machine × Host σ → Prop
  | rest (state : Machine × Host σ) : Course state [] [] state
  | retired {state last : Machine × Host σ} {instruction : Instruction} {effects : Effects}
    {frames : List Frame} {events : List TraceEvent} (running : state.1.status = .running)
    (decoded : Instruction.decode state.1.memory.bytes state.1.ip = .ok instruction)
    (completed : (state.1.attempt state.2.console).1 = .completed instruction effects)
    (more : Course (Machine.tick state) frames events last) :
    Course state (state.1.memory.frame :: frames)
      (.start state.1.ip instruction ::
        .retired state.1.ip (Machine.tick state).1.ip (Machine.tick state).1.data.depth :: events)
      last
  | refused {state : Machine × Host σ} {instruction : Instruction} {code : FaultCode}
    (running : state.1.status = .running)
    (decoded : Instruction.decode state.1.memory.bytes state.1.ip = .ok instruction)
    (refused : (state.1.attempt state.2.console).1 = .refused instruction code) :
    Course state [state.1.memory.frame] [.start state.1.ip instruction, .fault state.1.ip code]
      (Machine.tick state)
  | unreadable {state : Machine × Host σ} {cause : DecodeError} {code : FaultCode}
    (running : state.1.status = .running)
    (undecoded : Instruction.decode state.1.memory.bytes state.1.ip = .error cause)
    (unreadable : (state.1.attempt state.2.console).1 = .unreadable code) :
    Course state [state.1.memory.frame] [.fault state.1.ip code] (Machine.tick state)

section Attempts

variable {σ : Type} [Console σ] {machine : Machine} {console next : σ} {instruction : Instruction}

theorem Machine.Attempts.decoded_of_completed {effects : Effects}
    (attempts : machine.Attempts console (.completed instruction effects) next) :
    Instruction.decode machine.memory.bytes machine.ip = .ok instruction := by
  cases attempts <;> assumption

theorem Machine.Attempts.decoded_of_refused {code : FaultCode}
    (attempts : machine.Attempts console (.refused instruction code) next) :
    Instruction.decode machine.memory.bytes machine.ip = .ok instruction := by
  cases attempts <;> assumption

theorem Machine.Attempts.undecoded {code : FaultCode}
    (attempts : machine.Attempts console (.unreadable code) next) :
    ∃ cause, Instruction.decode machine.memory.bytes machine.ip = .error cause := by
  cases attempts <;> exact ⟨_, ‹_›⟩

end Attempts

section Course

variable {σ : Type} [Console σ] {state first last : Machine × Host σ} {frames : List Frame}
  {events : List TraceEvent}

theorem Machine.tick_machine {attempt : Attempt} (running : state.1.status = .running)
    (attempted : (state.1.attempt state.2.console).1 = attempt) :
    (Machine.tick state).1 = state.1.after attempt := by
  rw [Machine.tick, Machine.step_machine_of_running running, attempted]

/-- The screen has been shown the frames, and nothing else. -/
theorem Machine.Course.screen_eq (course : Machine.Course first frames events last) :
    last.2.screen = first.2.screen.map (frames.foldl Screen.present) := by
  induction course with
  | rest state => simp
  | retired running decoded completed more ih =>
      rw [ih, Machine.screen_tick running, Option.map_map]
      rfl
  | refused running decoded refused => exact Machine.screen_tick running
  | unreadable running undecoded unreadable => exact Machine.screen_tick running

/-- The trace has been told the events, and nothing else. -/
theorem Machine.Course.trace_eq (course : Machine.Course first frames events last) :
    last.2.trace = first.2.trace.map (events.foldl TraceSink.hear) := by
  induction course with
  | rest state => simp
  | retired running decoded completed more ih =>
      rw [ih, Machine.trace_tick running completed, Option.map_map]
      rfl
  | refused running decoded refused => exact Machine.trace_tick running refused
  | unreadable running undecoded unreadable => exact Machine.trace_tick running unreadable

theorem Machine.Course.chain (course : Machine.Course first frames events last) :
    TraceEvent.Chain first.1.ip events := by
  induction course with
  | rest state => exact .nil _
  | retired running decoded completed more ih => exact .retired ih
  | refused running decoded refused => exact .refused _ _ _
  | unreadable running undecoded unreadable => exact .unreadable _ _

/-- There is a frame for each instruction that is done and for each fault. -/
theorem Machine.Course.length_frames (course : Machine.Course first frames events last) :
    frames.length = events.countP TraceEvent.isRetired + events.countP TraceEvent.isFault := by
  induction course with
  | rest state => rfl
  | retired running decoded completed more ih =>
      rw [List.length_cons, ih, TraceEvent.countP_isRetired_pair, TraceEvent.countP_isFault_pair,
        Nat.add_right_comm]
  | refused running decoded refused => rfl
  | unreadable running undecoded unreadable => rfl

/-- An instruction that is done latches no fault. -/
theorem Machine.fault?_after_completed {machine : Machine} (running : machine.status = .running)
    (instruction : Instruction) (effects : Effects) :
    (machine.after (.completed instruction effects)).status.fault? = none := by
  simp only [Machine.after]
  split
  · rfl
  · split
    · rfl
    · rw [Machine.commit_status, running]
      rfl

/-- The step counter counts the instructions that are done. -/
theorem Machine.Course.steps_eq (course : Machine.Course first frames events last) :
    last.1.steps = first.1.steps + events.countP TraceEvent.isRetired := by
  induction course with
  | rest state => rfl
  | @retired state last instruction effects _ _ running decoded completed more ih =>
      obtain ⟨status, left⟩ := state.1.after_completed instruction effects
      rw [ih, Machine.tick_machine running completed, left, TraceEvent.countP_isRetired_pair,
        Nat.add_comm _ 1, ← Nat.add_assoc]
      rfl
  | refused running decoded refused =>
      rw [Machine.tick_machine running refused]
      rfl
  | unreadable running undecoded unreadable =>
      rw [Machine.tick_machine running unreadable]
      rfl

/-- The fault that is told is the one that is latched. -/
theorem Machine.Course.raised (course : Machine.Course first frames events last) {ip : Nat}
    {code : FaultCode} (told : .fault ip code ∈ events) :
    ∃ snapshot, last.1.status = .faulted ⟨code, ip, snapshot⟩ := by
  induction course with
  | rest state => cases told
  | retired running decoded completed more ih =>
      simp only [List.mem_cons, reduceCtorEq, false_or] at told
      exact ih told
  | refused running decoded refused =>
      rw [Machine.tick_machine running refused]
      simp only [List.mem_cons, List.not_mem_nil, reduceCtorEq, or_false, false_or,
        TraceEvent.fault.injEq] at told
      obtain ⟨rfl, rfl⟩ := told
      exact ⟨_, rfl⟩
  | unreadable running undecoded unreadable =>
      rw [Machine.tick_machine running unreadable]
      simp only [List.mem_cons, List.not_mem_nil, or_false, TraceEvent.fault.injEq] at told
      obtain ⟨rfl, rfl⟩ := told
      exact ⟨_, rfl⟩

/-- A fault is told exactly if one is latched on the way. -/
theorem Machine.Course.countP_isFault (course : Machine.Course first frames events last)
    (free : first.1.status.fault? = none) :
    events.countP TraceEvent.isFault = if last.1.status.fault?.isSome then 1 else 0 := by
  induction course with
  | rest state => rw [free]; rfl
  | @retired state last instruction effects _ _ running decoded completed more ih =>
      rw [TraceEvent.countP_isFault_pair]
      refine ih ?_
      rw [Machine.tick_machine running completed]
      exact Machine.fault?_after_completed running instruction effects
  | refused running decoded refused =>
      rw [Machine.tick_machine running refused]
      rfl
  | unreadable running undecoded unreadable =>
      rw [Machine.tick_machine running unreadable]
      rfl

end Course

/-! ## Observed runs -/

/-- What observers have seen of the way from one state to another. -/
structure Machine.Observed {σ : Type} [Console σ] (first last : Machine × Host σ)
    (frames : List Frame) (events : List TraceEvent) : Prop where
  course : Machine.Course first frames events last
  screen : last.2.screen = first.2.screen.map (frames.foldl Screen.present)
  trace : last.2.trace = first.2.trace.map (events.foldl TraceSink.hear)
  /-- One frame for each retired instruction, and one more if there was a fault. -/
  shown : frames.length =
    (last.1.steps - first.1.steps) + if last.1.status.fault?.isSome then 1 else 0
  chain : TraceEvent.Chain first.1.ip events
  retired : last.1.steps = first.1.steps + events.countP TraceEvent.isRetired
  faults : events.countP TraceEvent.isFault = if last.1.status.fault?.isSome then 1 else 0
  raised : ∀ ip code, .fault ip code ∈ events →
    ∃ snapshot, last.1.status = .faulted ⟨code, ip, snapshot⟩

section Observed

variable {σ : Type} [Console σ] {machine : Machine}

theorem Machine.Course.observed {first last : Machine × Host σ} {frames : List Frame}
    {events : List TraceEvent} (course : Machine.Course first frames events last)
    (running : first.1.status = .running) : Machine.Observed first last frames events := by
  have faults := course.countP_isFault (by rw [running]; rfl)
  have steps := course.steps_eq
  exact
    { course, faults
      screen := course.screen_eq
      trace := course.trace_eq
      shown := by rw [course.length_frames, faults, steps, Nat.add_sub_cancel_left]
      chain := course.chain
      retired := steps
      raised := fun _ _ told => course.raised told }

end Observed

end TwoStack
