import Mathlib.Data.Nat.Find
import TwoStack.Console.Scripted
import TwoStack.Proofs.Machine.Attempt
import TwoStack.Proofs.Machine.Stopping

/-!
# Step limits

A machine with a step limit pauses where a machine without one goes on, and nothing else is
different: run again and again, it comes to the same end, with the same host, and the instructions
retired by the single runs add up (`Machine.limit_only_pauses`).

Both machines take the same steps (`Machine.iterate_tick_limitedTo`).  A run with a limit answers as
the machine stands after `limit` steps: if it still goes on then, the run has paused there
(`Machine.answers_of_running`), and otherwise the run has come to its end on the way
(`Machine.answers_of_stopped`).  A run without a limit comes to its end exactly if some number of
steps stops the machine.
-/

namespace TwoStack

variable {σ : Type} [Console σ]

/-! ## Limits and pauses -/

/-- The machine with another step limit. -/
def Machine.limitedTo (machine : Machine) (limit : Option Nat) : Machine :=
  { machine with config := { machine.config with maxSteps := limit } }

/-- A number of runs, one after the other, that all pause after `limit` instructions. -/
inductive Machine.Pauses (limit : Nat) : Nat → Machine → Host σ → Machine → Host σ → Prop
  | none (machine : Machine) (host : Host σ) : Pauses limit 0 machine host machine host
  | again {calls : Nat} {machine next last : Machine} {host after lastHost : Host σ}
    (paused : machine.Answers host (limit + 1) (.stopped .stepLimit limit) next after)
    (more : Pauses limit calls next after last lastHost) :
    Pauses limit (calls + 1) machine host last lastHost

/-- The result of a run that is continued by another, given what the other answers. -/
def RunResult.after (earlier : Nat) : RunResult → RunResult
  | stopped boundary steps => .stopped boundary (earlier + steps)
  | faulted fault => .faulted fault

theorem Status.result?_add (status : Status) (earlier steps : Nat) :
    status.result? (earlier + steps) = (status.result? steps).map (RunResult.after earlier) := by
  cases status <;> rfl

theorem Status.steps_of_result? {status : Status} {boundary : Boundary} {retired steps : Nat}
    (answered : status.result? retired = some (.stopped boundary steps)) : retired = steps := by
  cases status <;> cases answered <;> rfl

/-! ## Runs as counted steps -/

section Runs

variable {state : Machine × Host σ} {count start : Nat}

theorem Machine.maxSteps_iterate_tick {limit : Option Nat}
    (limited : state.1.config.maxSteps = limit) (count : Nat) :
    (Machine.tick^[count] state).1.config.maxSteps = limit := by
  rw [Machine.config_iterate_tick, limited]

/-- A machine that goes on after some steps of a run is at its limit if these are all it may
take. -/
theorem Machine.atLimit_iterate_tick
    (running : (Machine.tick^[count] state).1.status = .running) :
    (Machine.tick^[count] state).1.atLimit state.1.steps =
      state.1.config.maxSteps.any fun limit => decide (limit ≤ count) := by
  rw [Machine.atLimit, running, Machine.config_iterate_tick,
    Machine.steps_iterate_tick running, Nat.add_sub_cancel_left]
  rfl

/-- A run takes the steps that its limit allows, as long as the machine goes on. -/
theorem Machine.runFrom_iterate_tick
    (running : (Machine.tick^[count] state).1.status = .running)
    (free : ∀ limit, state.1.config.maxSteps = some limit → count ≤ limit) (fuel : Nat) :
    state.1.runFrom state.1.steps (count + fuel) state.2 =
      (Machine.tick^[count] state).1.runFrom state.1.steps fuel (Machine.tick^[count] state).2 := by
  induction count generalizing fuel with
  | zero => rw [Nat.zero_add, Function.iterate_zero_apply]
  | succ count ih =>
      have before := Machine.running_of_iterate_tick (Nat.le_succ count) running
      have below : (Machine.tick^[count] state).1.atLimit state.1.steps = false := by
        rw [Machine.atLimit_iterate_tick before, Option.any_eq_false]
        intro limit limited
        exact decide_eq_false (Nat.not_le.2 (free limit limited))
      rw [Nat.add_right_comm, Nat.add_assoc, ih before fun limit limited =>
        Nat.le_of_succ_le (free limit limited), Machine.runFrom_tick below]
      rw [Function.iterate_succ_apply'] at running ⊢
      rw [Status.result?_eq_none_iff.2 running]

/-- The last step before a machine stops. -/
theorem Machine.exists_last_running (running : state.1.status = .running)
    (stopped : (Machine.tick^[count] state).1.status ≠ .running) :
    ∃ last < count, (Machine.tick^[last] state).1.status = .running ∧
      (Machine.tick^[last + 1] state).1.status ≠ .running := by
  induction count with
  | zero => exact absurd running stopped
  | succ count ih =>
      by_cases before : (Machine.tick^[count] state).1.status = .running
      · exact ⟨count, Nat.lt_succ_self count, before, stopped⟩
      · obtain ⟨last, inside, found⟩ := ih before
        exact ⟨last, Nat.lt_succ_of_lt inside, found⟩

/-- A run that stops its machine within the steps it may take answers with what stopped it. -/
theorem Machine.answers_of_stopped (state : Machine × Host σ) (count : Nat) {result : RunResult}
    (free : ∀ limit, state.1.config.maxSteps = some limit → count ≤ limit)
    (stopped : (Machine.tick^[count] state).1.status.result?
      ((Machine.tick^[count] state).1.steps - state.1.steps) = some result) :
    state.1.Answers state.2 (count + 1) result (Machine.tick^[count] state).1
      (Machine.tick^[count] state).2 := by
  intro more
  rw [Machine.runFor]
  by_cases running : state.1.status = .running
  · obtain ⟨last, inside, before, ended⟩ :=
      Machine.exists_last_running running (Status.ne_running_of_result? stopped)
    have same := Machine.iterate_tick_of_stopped_of_le (Nat.succ_le_of_lt inside) ended
    have below : (Machine.tick^[last] state).1.atLimit state.1.steps = false := by
      rw [Machine.atLimit_iterate_tick before, Option.any_eq_false]
      intro limit limited
      exact decide_eq_false (Nat.not_le.2 (Nat.lt_of_lt_of_le inside (free limit limited)))
    -- all attempts before the last go through, and the last one answers
    have attempts : count + 1 + more = last + (count - last + more + 1) := by omega
    rw [attempts, Machine.runFrom_iterate_tick before fun limit limited =>
        Nat.le_of_lt (Nat.lt_of_lt_of_le inside (free limit limited)),
      Machine.runFrom_tick below]
    rw [same, Function.iterate_succ_apply'] at stopped
    rw [same, Function.iterate_succ_apply', stopped]
  · rw [Machine.iterate_tick_of_stopped running, Nat.sub_self] at stopped
    rw [Machine.iterate_tick_of_stopped running, Nat.add_comm count 1, Nat.add_assoc]
    exact Machine.answers_of_result? stopped state.2 (count + more)

/-- A run with a limit that stops its machine within the limit answers with what stopped it. -/
theorem Machine.answers_within_limit (state : Machine × Host σ) {limit : Nat} {result : RunResult}
    (limited : state.1.config.maxSteps = some limit)
    (stopped : (Machine.tick^[limit] state).1.status.result?
      ((Machine.tick^[limit] state).1.steps - state.1.steps) = some result) :
    state.1.Answers state.2 (limit + 1) result (Machine.tick^[limit] state).1
      (Machine.tick^[limit] state).2 := by
  refine Machine.answers_of_stopped state limit (fun other same => ?_) stopped
  rw [limited] at same
  exact Nat.le_of_eq (Option.some.inj same)

/-- A run whose machine goes on after all the steps it may take pauses there. -/
theorem Machine.answers_of_running (state : Machine × Host σ) {limit : Nat}
    (limited : state.1.config.maxSteps = some limit)
    (running : (Machine.tick^[limit] state).1.status = .running) :
    state.1.Answers state.2 (limit + 1) (.stopped .stepLimit limit)
      (Machine.tick^[limit] state).1 (Machine.tick^[limit] state).2 := by
  have used : (Machine.tick^[limit] state).1.atLimit state.1.steps = true := by
    rw [Machine.atLimit_iterate_tick running, limited]
    exact decide_eq_true (Nat.le_refl limit)
  intro more
  rw [Machine.runFor, Nat.add_assoc, Nat.add_comm 1 more,
    Machine.runFrom_iterate_tick running fun other same => by
      rw [limited] at same
      exact Nat.le_of_eq (Option.some.inj same),
    Machine.runFrom_of_atLimit used, Machine.steps_iterate_tick running,
    Nat.add_sub_cancel_left]

/-- A run without a limit answers only where steps have stopped the machine. -/
theorem Machine.exists_stopped_of_runFrom {machine last : Machine} {host lastHost : Host σ}
    {result : RunResult} {fuel : Nat} (unlimited : machine.config.maxSteps = none)
    (answered : machine.runFrom start fuel host = (some result, last, lastHost)) :
    ∃ count, Machine.tick^[count + 1] (machine, host) = (last, lastHost) ∧
      last.status.result? (last.steps - start) = some result := by
  induction fuel generalizing machine host with
  | zero => cases answered
  | succ fuel ih =>
      have free : machine.atLimit start = false := by
        rw [Machine.atLimit, unlimited, Option.any_none, Bool.and_false]
      rw [Machine.runFrom_tick free] at answered
      split at answered
      · next found stopped =>
          obtain ⟨⟨⟩, reached⟩ := Prod.mk.inj answered
          rw [reached] at stopped
          exact ⟨0, reached, stopped⟩
      · obtain ⟨count, reached, stopped⟩ :=
          ih (Machine.maxSteps_iterate_tick unlimited 1) answered
        exact ⟨count + 1, reached, stopped⟩

end Runs

/-! ## The same steps under every limit -/

section Limits

variable (machine : Machine) (limit : Option Nat)

theorem Machine.after_limitedTo (attempt : Attempt) :
    (machine.limitedTo limit).after attempt = (machine.after attempt).limitedTo limit := by
  cases attempt with
  | outside => rfl
  | unreadable code => rfl
  | refused instruction code => rfl
  | completed instruction effects =>
      have committed : (machine.limitedTo limit).commit effects =
          (machine.commit effects).limitedTo limit := rfl
      have kept : ((machine.commit effects).limitedTo limit).ip = (machine.commit effects).ip := rfl
      simp only [Machine.after, committed, kept]
      split
      · rfl
      · split <;> rfl

theorem Machine.attempt_limitedTo (console : σ) :
    (machine.limitedTo limit).attempt console = machine.attempt console := rfl

theorem Machine.tick_limitedTo (host : Host σ) :
    Machine.tick (machine.limitedTo limit, host) =
      ((Machine.tick (machine, host)).1.limitedTo limit, (Machine.tick (machine, host)).2) := by
  by_cases running : machine.status = .running
  · have same : (machine.limitedTo limit).status = .running := running
    simp only [Machine.tick, Machine.step, running, same, Machine.attempt_limitedTo,
      Machine.after_limitedTo]
    rfl
  · have same : (machine.limitedTo limit).status ≠ .running := running
    rw [Machine.tick_of_stopped same, Machine.tick_of_stopped running]

theorem Machine.iterate_tick_limitedTo (host : Host σ) (count : Nat) :
    Machine.tick^[count] (machine.limitedTo limit, host) =
      ((Machine.tick^[count] (machine, host)).1.limitedTo limit,
        (Machine.tick^[count] (machine, host)).2) := by
  induction count with
  | zero => rfl
  | succ count ih =>
      rw [Function.iterate_succ_apply', ih, Machine.tick_limitedTo, Function.iterate_succ_apply']

end Limits

/-! ## Pauses -/

section Pauses

variable {state : Machine × Host σ} {limit calls count : Nat}

theorem Machine.stopped_of_le {early : Nat} (before : early ≤ count)
    (stopped : (Machine.tick^[early] state).1.status ≠ .running) :
    (Machine.tick^[count] state).1.status ≠ .running :=
  fun running => stopped (Machine.running_of_iterate_tick before running)

/-- The runs of a machine that goes on long enough pause. -/
theorem Machine.pauses_of_running (state : Machine × Host σ)
    (limited : state.1.config.maxSteps = some limit)
    (running : calls = 0 ∨ (Machine.tick^[calls * limit] state).1.status = .running) :
    Machine.Pauses limit calls state.1 state.2 (Machine.tick^[calls * limit] state).1
      (Machine.tick^[calls * limit] state).2 := by
  induction calls generalizing state with
  | zero =>
      rw [Nat.zero_mul]
      exact .none _ _
  | succ calls ih =>
      rcases running with none | running
      · cases none
      · rw [Nat.succ_mul] at running ⊢
        have first := Machine.running_of_iterate_tick (Nat.le_add_left limit _) running
        rw [Function.iterate_add_apply] at running ⊢
        exact .again (Machine.answers_of_running state limited first)
          (ih _ (Machine.maxSteps_iterate_tick limited limit) (.inr running))

/-- If steps stop the machine, it stops in the run after some number of pauses. -/
theorem Machine.exists_last_pause (positive : 0 < limit)
    (stopped : (Machine.tick^[count] state).1.status ≠ .running) :
    ∃ calls, (calls = 0 ∨ (Machine.tick^[calls * limit] state).1.status = .running) ∧
      (Machine.tick^[limit + calls * limit] state).1.status ≠ .running := by
  have ends : ∃ calls, (Machine.tick^[limit + calls * limit] state).1.status ≠ .running :=
    ⟨count, Machine.stopped_of_le
      ((Nat.le_mul_of_pos_right count positive).trans (Nat.le_add_left _ limit)) stopped⟩
  -- the least such number is the right one: the runs before it have paused
  refine ⟨Nat.find ends, ?_, Nat.find_spec ends⟩
  rcases first : Nat.find ends with _ | calls
  · exact .inl rfl
  · have before := Nat.find_min ends (show calls < Nat.find ends by omega)
    rw [Decidable.not_not, Nat.add_comm, ← Nat.succ_mul] at before
    exact .inr before

theorem Machine.lt_memorySize_of_tick (running : (Machine.tick state).1.status = .running) :
    (Machine.tick state).1.ip < memorySize := by
  by_cases before : state.1.status = .running
  · rw [Machine.tick, Machine.step_machine_of_running before] at running ⊢
    exact Machine.lt_memorySize_of_after running
  · rw [Machine.tick_of_stopped before] at running
    exact absurd running before

/-- A machine that goes on after some steps and later stops without a fault retires one more
instruction at least. -/
theorem Machine.lt_steps_of_running {boundary : Boundary} {later retired steps : Nat}
    (positive : 0 < count) (running : (Machine.tick^[count] state).1.status = .running)
    (stopped : (Machine.tick^[later] state).1.status.result? retired =
      some (.stopped boundary steps)) :
    state.1.steps + count < (Machine.tick^[later] state).1.steps := by
  have ended := Status.ne_running_of_result? stopped
  have start : state.1.status = .running :=
    Machine.running_of_iterate_tick (Nat.zero_le count) running
  obtain ⟨last, inside, before, final⟩ := Machine.exists_last_running start ended
  have past : count ≤ last := by
    by_contra early
    exact Machine.stopped_of_le (Nat.lt_of_not_le early) final running
  rw [Machine.iterate_tick_of_stopped_of_le (Nat.succ_le_of_lt inside) final] at stopped ⊢
  obtain ⟨previous, rfl⟩ := Nat.exists_eq_add_of_lt (Nat.lt_of_lt_of_le positive past)
  -- the last step starts in memory, so it retires an instruction or raises a fault
  have address : (Machine.tick^[0 + previous + 1] state).1.ip < memorySize := by
    rw [Function.iterate_succ_apply'] at before ⊢
    exact Machine.lt_memorySize_of_tick before
  have attempts := (Machine.tick^[0 + previous + 1] state).1.attempts
    (Machine.tick^[0 + previous + 1] state).2.console
  rw [Function.iterate_succ_apply' _ (0 + previous + 1), Machine.tick,
    Machine.step_machine_of_running before] at stopped ⊢
  rcases attempts.faulted_or_counted address with ⟨fault, faulted⟩ | counted
  · rw [faulted] at stopped
    cases stopped
  · rw [counted, Machine.steps_iterate_tick before]
    omega

end Pauses

/-! ## What a step limit changes -/

/-- What a step limit changes about the runs of a machine with a host. -/
structure Machine.PausesOnly (machine : Machine) (host : Host σ) (limit : Nat) : Prop where
  /-- A run retires at most `limit` instructions, and has paused after just as many or has come to
  an end. -/
  answers : ∃ result next after,
    (machine.limitedTo (some limit)).Answers host (limit + 1) result next after ∧
    next.steps ≤ machine.steps + limit ∧
    (result = .stopped .stepLimit limit ∧ next.status = .running ∧
        next.steps = machine.steps + limit ∨
      next.status.result? (next.steps - machine.steps) = some result)
  /-- If a run without limit answers, runs with the limit pause some number of times, and the next
  one answers the same, leaves the same machine and host behind, and has retired the rest. -/
  resumes : ∀ fuel result last lastHost,
    (machine.limitedTo none).runFor fuel host = (some result, last, lastHost) →
    last.status.result? (last.steps - machine.steps) = some result ∧
    ∃ calls paused pausedHost rest,
      (machine.limitedTo (some limit)).Pauses limit calls host paused pausedHost ∧
      paused.Answers pausedHost (limit + 1) rest (last.limitedTo (some limit)) lastHost ∧
      paused.steps = machine.steps + calls * limit ∧
      result = rest.after (calls * limit)
  /-- If a run without limit never answers, all runs with the limit pause. -/
  endless : (∀ fuel, ((machine.limitedTo none).runFor fuel host).1 = none) →
    ∀ calls, ∃ paused pausedHost,
      (machine.limitedTo (some limit)).Pauses limit calls host paused pausedHost
  /-- An end that is reached with the last instruction of a run is no pause. -/
  exactly : ∀ fuel boundary last lastHost,
    (machine.limitedTo none).runFor fuel host = (some (.stopped boundary limit), last, lastHost) →
    (machine.limitedTo (some limit)).Answers host (limit + 1) (.stopped boundary limit)
      (last.limitedTo (some limit)) lastHost

section PausesOnly

theorem Machine.exists_answer (machine : Machine) (host : Host σ) (limit : Nat) :
    ∃ result next after,
      (machine.limitedTo (some limit)).Answers host (limit + 1) result next after ∧
      next.steps ≤ machine.steps + limit ∧
      (result = .stopped .stepLimit limit ∧ next.status = .running ∧
          next.steps = machine.steps + limit ∨
        next.status.result? (next.steps - machine.steps) = some result) := by
  let state := (machine.limitedTo (some limit), host)
  have most := (Machine.steps_iterate_tick_bounds state limit).2
  by_cases running : (Machine.tick^[limit] state).1.status = .running
  · exact ⟨_, _, _, Machine.answers_of_running state rfl running, most,
      .inl ⟨rfl, running, Machine.steps_iterate_tick running⟩⟩
  · obtain ⟨result, stopped⟩ := Status.exists_result running
      ((Machine.tick^[limit] state).1.steps - machine.steps)
    exact ⟨_, _, _, Machine.answers_within_limit state rfl stopped, most, .inr stopped⟩

variable {machine last : Machine} {host lastHost : Host σ} {limit fuel : Nat}

/-- What a run without limit answers, the same steps with a limit come to. -/
theorem Machine.exists_stopped_of_runFor (limit : Nat) {result : RunResult}
    (answered : (machine.limitedTo none).runFor fuel host = (some result, last, lastHost)) :
    last.status.result? (last.steps - machine.steps) = some result ∧
      ∃ count, Machine.tick^[count] (machine.limitedTo (some limit), host) =
        (last.limitedTo (some limit), lastHost) := by
  obtain ⟨count, reached, stopped⟩ := Machine.exists_stopped_of_runFrom rfl answered
  refine ⟨stopped, count + 1, ?_⟩
  rw [Machine.iterate_tick_limitedTo] at reached ⊢
  cases reached
  rfl

/-- A run that went on after pauses answers with what stopped the machine. -/
theorem Machine.answers_after_pauses (state : Machine × Host σ) {calls : Nat} {rest : RunResult}
    (limited : state.1.config.maxSteps = some limit)
    (reached : Machine.tick^[limit + calls * limit] state = (last, lastHost))
    (stopped : last.status.result?
      (last.steps - (Machine.tick^[calls * limit] state).1.steps) = some rest) :
    (Machine.tick^[calls * limit] state).1.Answers (Machine.tick^[calls * limit] state).2
      (limit + 1) rest last lastHost := by
  have answers := Machine.answers_within_limit (Machine.tick^[calls * limit] state)
    (Machine.maxSteps_iterate_tick limited _)
    (by rw [← Function.iterate_add_apply, reached]; exact stopped)
  rwa [← Function.iterate_add_apply, reached] at answers

theorem Machine.resumes_after_pauses (positive : 0 < limit) {result : RunResult}
    (answered : (machine.limitedTo none).runFor fuel host = (some result, last, lastHost)) :
    ∃ calls paused pausedHost rest,
      (machine.limitedTo (some limit)).Pauses limit calls host paused pausedHost ∧
      paused.Answers pausedHost (limit + 1) rest (last.limitedTo (some limit)) lastHost ∧
      paused.steps = machine.steps + calls * limit ∧ result = rest.after (calls * limit) := by
  let state := (machine.limitedTo (some limit), host)
  obtain ⟨stopped, count, reached⟩ := Machine.exists_stopped_of_runFor limit answered
  have ended : last.status ≠ .running := Status.ne_running_of_result? stopped
  have halted : (Machine.tick^[count] state).1.status ≠ .running := by
    rw [reached]
    exact ended
  obtain ⟨calls, before, final⟩ := Machine.exists_last_pause positive halted
  have same := (Machine.iterate_tick_eq_of_stopped final halted).trans reached
  have counted : (Machine.tick^[calls * limit] state).1.steps = machine.steps + calls * limit := by
    rcases before with rfl | running
    · rw [Nat.zero_mul]
      rfl
    · exact Machine.steps_iterate_tick running
  have most : machine.steps + calls * limit ≤ last.steps := by
    have bound := (Machine.steps_iterate_tick_bounds (Machine.tick^[calls * limit] state) limit).1
    rwa [← Function.iterate_add_apply, same, counted] at bound
  obtain ⟨rest, answer⟩ := Status.exists_result ended (last.steps - (machine.steps + calls * limit))
  refine ⟨calls, _, _, rest, Machine.pauses_of_running state rfl before,
    Machine.answers_after_pauses state rfl same (by rw [counted]; exact answer), counted, ?_⟩
  have total : last.steps - machine.steps =
      calls * limit + (last.steps - (machine.steps + calls * limit)) := by omega
  rw [total, Status.result?_add, answer] at stopped
  exact (Option.some.inj stopped).symm

theorem Machine.pauses_of_endless
    (endless : ∀ fuel, ((machine.limitedTo none).runFor fuel host).1 = none) (calls : Nat) :
    ∃ paused pausedHost,
      (machine.limitedTo (some limit)).Pauses limit calls host paused pausedHost := by
  have running (count : Nat) : (Machine.tick^[count] (machine, host)).1.status = .running := by
    by_contra stopped
    obtain ⟨result, answer⟩ := Status.exists_result stopped
      ((Machine.tick^[count] (machine, host)).1.steps - machine.steps)
    have answers := Machine.answers_of_stopped (machine.limitedTo none, host) count nofun
      (by rw [Machine.iterate_tick_limitedTo]; exact answer)
    have none := endless (count + 1 + 0)
    rw [answers] at none
    cases none
  refine ⟨_, _, Machine.pauses_of_running (machine.limitedTo (some limit), host) rfl (.inr ?_)⟩
  rw [Machine.iterate_tick_limitedTo]
  exact running _

theorem Machine.answers_at_limit (positive : 0 < limit) {boundary : Boundary}
    (answered : (machine.limitedTo none).runFor fuel host =
      (some (.stopped boundary limit), last, lastHost)) :
    (machine.limitedTo (some limit)).Answers host (limit + 1) (.stopped boundary limit)
      (last.limitedTo (some limit)) lastHost := by
  let state := (machine.limitedTo (some limit), host)
  obtain ⟨stopped, count, reached⟩ := Machine.exists_stopped_of_runFor limit answered
  have retired : last.steps - machine.steps = limit := Status.steps_of_result? stopped
  have ended : (Machine.tick^[limit] state).1.status ≠ .running := by
    intro running
    have more := Machine.lt_steps_of_running positive running
      (by rw [reached]; exact retired ▸ stopped)
    rw [reached] at more
    have more : machine.steps + limit < last.steps := more
    omega
  have same := (Machine.iterate_tick_eq_of_stopped ended (by
    rw [reached]
    exact Status.ne_running_of_result? stopped)).trans reached
  have answers := Machine.answers_within_limit state rfl (by rw [same]; exact stopped)
  rwa [same] at answers

end PausesOnly

/-- A run that may retire no instruction answers at once and changes nothing. -/
theorem Machine.answers_of_no_steps (machine : Machine) (host : Host σ) :
    ∃ result, (machine.limitedTo (some 0)).Answers host 1 result (machine.limitedTo (some 0)) host ∧
      (machine.status = .running → result = .stopped .stepLimit 0) := by
  by_cases running : machine.status = .running
  · exact ⟨_, Machine.answers_of_running (machine.limitedTo (some 0), host) rfl running,
      fun _ => rfl⟩
  · obtain ⟨result, stopped⟩ := Status.exists_result running 0
    have same : (machine.limitedTo (some 0)).status.result? 0 = some result := stopped
    exact ⟨result, Machine.answers_of_result? same host, fun again => absurd again running⟩

/-- A step limit pauses the runs of a machine and changes nothing else. -/
theorem Machine.limit_only_pauses (machine : Machine) (host : Host σ) {limit : Nat}
    (positive : 0 < limit) :
    machine.PausesOnly host limit ∧
      ∃ result,
        (machine.limitedTo (some 0)).Answers host 1 result (machine.limitedTo (some 0)) host ∧
        (machine.status = .running → result = .stopped .stepLimit 0) where
  left :=
    { answers := machine.exists_answer host limit
      resumes := fun _ _ _ _ answered =>
        ⟨(Machine.exists_stopped_of_runFor limit answered).1,
          Machine.resumes_after_pauses positive answered⟩
      endless := Machine.pauses_of_endless
      exactly := fun _ _ _ _ answered => Machine.answers_at_limit positive answered }
  right := machine.answers_of_no_steps host

/-- Three times `NOP` and then `HALT`, two instructions in each run. -/
theorem Machine.limit_only_pauses_two :
    let machine := Machine.load ⟨#[0x00, 0x00, 0x00, 0x16], by decide⟩ {}
    let host : Host Scripted := .ofConsole (Scripted.ofInputs []) (.empty ⟨[], none⟩)
    0 < 2 ∧ machine.PausesOnly host 2 ∧
      ∃ result,
        (machine.limitedTo (some 0)).Answers host 1 result (machine.limitedTo (some 0)) host ∧
        (machine.status = .running → result = .stopped .stepLimit 0) :=
  ⟨by decide, Machine.limit_only_pauses _ _ (by decide)⟩

end TwoStack
