import TwoStack.Proofs.Machine.Attempt
import TwoStack.Proofs.Machine.Stopping

/-!
# Consoles that answer alike

A machine learns nothing from its console but the words that it receives, and whether a request is
granted.  So with two consoles whose states answer alike (`Alike`) it takes the same course: the same
outcome of every step, the same machine after it, the same results of runs, and states of the
consoles that again answer alike (`Machine.Together`).  The consoles may be of different kinds, and
the reasons for which they turn a request down may differ.

A machine is told to step or to run, any number of times and in any order: `Machine.obey` follows
such commands and collects the replies.
-/

namespace TwoStack

variable {σ τ : Type} [Console σ] [Console τ]

/-- Related states give the same word or both none, take a word or both do not, and are related
after each request. -/
structure Alike (related : σ → τ → Prop) : Prop where
  read : ∀ {one : σ} {other : τ}, related one other →
    (Console.read other).1.toOption = (Console.read one).1.toOption ∧
      related (Console.read one).2 (Console.read other).2
  write : ∀ {one : σ} {other : τ} (word : Word), related one other →
    (Console.write other word).1.toOption = (Console.write one word).1.toOption ∧
      related (Console.write one word).2 (Console.write other word).2

theorem eq_ok_of_toOption {ε α : Type} {answer : Except ε α} {value : α}
    (given : answer.toOption = some value) : answer = .ok value := by
  cases answer <;> cases given
  rfl

theorem exists_error_of_toOption {ε α : Type} {answer : Except ε α}
    (refused : answer.toOption = none) : ∃ cause, answer = .error cause := by
  cases answer with
  | error cause => exact ⟨cause, rfl⟩
  | ok value => cases refused

section Attempts

variable {related : σ → τ → Prop} {machine : Machine} {one next : σ} {other : τ} {attempt : Attempt}

/-- The attempt is the same with the other console. -/
theorem Machine.Attempts.alike (attempts : machine.Attempts one attempt next)
    (alike : Alike related) (same : related one other) :
    ∃ following, machine.Attempts other attempt following ∧ related next following := by
  cases attempts with
  | outside decoded => exact ⟨other, .outside decoded, same⟩
  | unknown decoded => exact ⟨other, .unknown decoded, same⟩
  | truncated decoded => exact ⟨other, .truncated decoded, same⟩
  | refused decoded planned => exact ⟨other, .refused decoded planned, same⟩
  | silent decoded plans => exact ⟨other, .silent decoded plans, same⟩
  | received decoded plans read =>
      obtain ⟨answer, after⟩ := alike.read same
      rw [read] at answer after
      exact ⟨_, .received decoded plans (Prod.ext (eq_ok_of_toOption answer) rfl), after⟩
  | unanswered decoded plans read =>
      obtain ⟨answer, after⟩ := alike.read same
      rw [read] at answer after
      obtain ⟨cause, refused⟩ := exists_error_of_toOption answer
      exact ⟨_, .unanswered decoded plans (Prod.ext refused rfl), after⟩
  | @sent _ _ word _ decoded plans written =>
      obtain ⟨answer, after⟩ := alike.write word same
      rw [written] at answer after
      exact ⟨_, .sent decoded plans (Prod.ext (eq_ok_of_toOption answer) rfl), after⟩
  | @unsent _ _ word _ _ decoded plans written =>
      obtain ⟨answer, after⟩ := alike.write word same
      rw [written] at answer after
      obtain ⟨cause, refused⟩ := exists_error_of_toOption answer
      exact ⟨_, .unsent decoded plans (Prod.ext refused rfl), after⟩

theorem Machine.attempt_alike (machine : Machine) (alike : Alike related)
    (same : related one other) :
    (machine.attempt other).1 = (machine.attempt one).1 ∧
      related (machine.attempt one).2 (machine.attempt other).2 := by
  obtain ⟨following, attempts, after⟩ := (machine.attempts one).alike alike same
  rw [attempts.attempt_eq]
  exact ⟨rfl, after⟩

end Attempts

/-! ## Steps and runs -/

/-- The same machine with consoles whose states are related. -/
structure Machine.Together (related : σ → τ → Prop) (one : Machine × Host σ)
    (other : Machine × Host τ) : Prop where
  machine : other.1 = one.1
  console : related one.2.console other.2.console

section Together

variable {related : σ → τ → Prop} {one : Machine × Host σ} {other : Machine × Host τ}

/-- A step has the same outcome and leaves the same machine. -/
theorem Machine.Together.step (together : Machine.Together related one other)
    (alike : Alike related) : Machine.nextOutcome other = Machine.nextOutcome one ∧
      Machine.Together related (Machine.tick one) (Machine.tick other) := by
  rcases one with ⟨_, host⟩
  rcases other with ⟨machine, otherHost⟩
  obtain ⟨rfl, console⟩ := together
  rcases stopped : machine.status.outcome? with _ | outcome
  · have running := Status.outcome?_eq_none_iff.1 stopped
    obtain ⟨same, after⟩ := machine.attempt_alike alike console
    refine ⟨?_, ?_, ?_⟩
    · rw [Machine.nextOutcome, Machine.nextOutcome, Machine.step_outcome_of_running running,
        Machine.step_outcome_of_running running, same]
    · rw [Machine.tick, Machine.tick, Machine.step_machine_of_running running,
        Machine.step_machine_of_running running, same]
    · rw [Machine.tick, Machine.tick, Machine.step_console_of_running running,
        Machine.step_console_of_running running]
      exact after
  · rw [Machine.nextOutcome, Machine.nextOutcome, Machine.tick, Machine.tick,
      Machine.step_of_stopped stopped, Machine.step_of_stopped stopped]
    exact ⟨rfl, rfl, console⟩

theorem Machine.Together.iterate_tick (together : Machine.Together related one other)
    (alike : Alike related) (count : Nat) :
    Machine.Together related (Machine.tick^[count] one) (Machine.tick^[count] other) := by
  induction count with
  | zero => exact together
  | succ count ih =>
      rw [Function.iterate_succ_apply', Function.iterate_succ_apply']
      exact (ih.step alike).2

/-- A run has the same result and leaves the same machine. -/
theorem Machine.Together.runFrom (together : Machine.Together related one other)
    (alike : Alike related) (start fuel : Nat) :
    (other.1.runFrom start fuel other.2).1 = (one.1.runFrom start fuel one.2).1 ∧
      Machine.Together related (one.1.runFrom start fuel one.2).2
        (other.1.runFrom start fuel other.2).2 := by
  induction fuel generalizing one other with
  | zero => exact ⟨rfl, together⟩
  | succ fuel ih =>
      have next := (together.step alike).2
      rw [together.machine]
      cases paused : one.1.atLimit start with
      | true =>
          rw [Machine.runFrom_of_atLimit paused, Machine.runFrom_of_atLimit paused]
          exact ⟨rfl, rfl, together.console⟩
      | false =>
          have following : Machine.tick (one.1, other.2) = Machine.tick other := by
            rw [← together.machine]
          rw [Machine.runFrom_tick paused, Machine.runFrom_tick paused, following, next.machine]
          rcases (Machine.tick one).1.status.result? ((Machine.tick one).1.steps - start) with
            _ | result
          · have more := ih next
            rw [next.machine] at more
            exact more
          · exact ⟨rfl, next⟩

end Together

/-! ## Commands -/

/-- What a machine can be told. -/
inductive Machine.Command where
  | step
  /-- To run, with at most so many attempts. -/
  | run (fuel : Nat)
  deriving DecidableEq, Repr

/-- What a machine answers to a command. -/
inductive Machine.Reply where
  | stepped (outcome : StepOutcome)
  | ran (result : Option RunResult)
  deriving DecidableEq, Repr

/-- Follows one command. -/
def Machine.follow (state : Machine × Host σ) : Machine.Command → Machine.Reply × Machine × Host σ
  | .step => (.stepped (Machine.nextOutcome state), Machine.tick state)
  | .run fuel =>
    let (result, next) := state.1.runFor fuel state.2
    (.ran result, next)

/-- Follows commands one after the other, and collects the replies. -/
def Machine.obey : List Machine.Command → Machine × Host σ → List Machine.Reply × Machine × Host σ
  | [], state => ([], state)
  | command :: rest, state =>
    let (reply, next) := Machine.follow state command
    let (replies, last) := Machine.obey rest next
    (reply :: replies, last)

section Commands

/-- A run is a number of steps. -/
theorem Machine.exists_iterate_tick_runFrom (state : Machine × Host σ) (start fuel : Nat) :
    ∃ count, (state.1.runFrom start fuel state.2).2 = Machine.tick^[count] state := by
  induction fuel generalizing state with
  | zero => exact ⟨0, rfl⟩
  | succ fuel ih =>
      cases paused : state.1.atLimit start with
      | true =>
          rw [Machine.runFrom_of_atLimit paused]
          exact ⟨0, rfl⟩
      | false =>
          rw [Machine.runFrom_tick paused]
          rcases (Machine.tick state).1.status.result? ((Machine.tick state).1.steps - start) with
            _ | result
          · obtain ⟨count, same⟩ := ih (Machine.tick state)
            exact ⟨count + 1, same⟩
          · exact ⟨1, rfl⟩

/-- Whatever a machine is told, it takes a number of steps. -/
theorem Machine.exists_iterate_tick_obey (commands : List Machine.Command)
    (state : Machine × Host σ) :
    ∃ count, (Machine.obey commands state).2 = Machine.tick^[count] state := by
  induction commands generalizing state with
  | nil => exact ⟨0, rfl⟩
  | cons command rest ih =>
      have first : ∃ count, (Machine.follow state command).2 = Machine.tick^[count] state := by
        cases command with
        | step => exact ⟨1, rfl⟩
        | run fuel => exact Machine.exists_iterate_tick_runFrom state state.1.steps fuel
      obtain ⟨early, reached⟩ := first
      obtain ⟨late, arrived⟩ := ih (Machine.follow state command).2
      refine ⟨late + early, ?_⟩
      rw [Function.iterate_add_apply, ← reached]
      exact arrived

variable {related : σ → τ → Prop} {one : Machine × Host σ} {other : Machine × Host τ}

theorem Machine.Together.follow (together : Machine.Together related one other)
    (alike : Alike related) (command : Machine.Command) :
    (Machine.follow other command).1 = (Machine.follow one command).1 ∧
      Machine.Together related (Machine.follow one command).2
        (Machine.follow other command).2 := by
  cases command with
  | step =>
      obtain ⟨outcome, next⟩ := together.step alike
      exact ⟨congrArg Machine.Reply.stepped outcome, next⟩
  | run fuel =>
      have steps : other.1.steps = one.1.steps := congrArg Machine.steps together.machine
      obtain ⟨result, next⟩ := together.runFrom alike one.1.steps fuel
      rw [Machine.follow, Machine.follow, Machine.runFor, Machine.runFor, steps]
      exact ⟨congrArg Machine.Reply.ran result, next⟩

/-- The replies are the same, and so are the machines in the end. -/
theorem Machine.Together.obey (together : Machine.Together related one other)
    (alike : Alike related) (commands : List Machine.Command) :
    (Machine.obey commands other).1 = (Machine.obey commands one).1 ∧
      Machine.Together related (Machine.obey commands one).2 (Machine.obey commands other).2 := by
  induction commands generalizing one other with
  | nil => exact ⟨rfl, together⟩
  | cons command rest ih =>
      obtain ⟨reply, next⟩ := together.follow alike command
      obtain ⟨replies, last⟩ := ih next
      exact ⟨List.cons_eq_cons.2 ⟨reply, replies⟩, last⟩

end Commands

end TwoStack
