import Mathlib.Data.List.Forall2
import TwoStack.Proofs.Machine.Atomicity
import TwoStack.Proofs.Machine.StraightOn

/-!
# Every word is accounted for

With a scripted console nothing is lost on the way in or out.  After any number of steps as many
words have been taken off the list as `INPUT`s were retired, each `INPUT` has put its word on the
data stack, and the output is what was on top of the stack at each `PEEK` (`Machine.Accounted`).

An attempt looks at the list no further than its first word.  So more words at its end make no
difference to a machine, as long as it is not stopped for want of a word
(`Machine.supplied_iterate_tick`, `Machine.supplied_obey`).
-/

namespace TwoStack

/-! ## Retired instructions -/

section Retired

variable {σ : Type} [Console σ]

/-- The instruction that the next step retires. -/
def Machine.retires? (state : Machine × Host σ) : Option Opcode :=
  match Machine.told state with
  | [.start _ instruction, .retired _ _ _] => some instruction.opcode
  | _ => none

/-- The numbers of those among the first `count` steps that retire a given instruction. -/
def Machine.retirements (opcode : Opcode) (start : Machine × Host σ) (count : Nat) : List Nat :=
  (List.range count).filter fun early =>
    decide (Machine.retires? (Machine.tick^[early] start) = some opcode)

/-- The instruction that is done with an attempt. -/
def Attempt.done? : Attempt → Option Opcode
  | completed instruction _ => some instruction.opcode
  | outside | unreadable _ | refused _ _ => none

variable {state start : Machine × Host σ} {opcode : Opcode} {count : Nat}

theorem Machine.retires?_of_attempt {attempt : Attempt} (running : state.1.status = .running)
    (attempted : (state.1.attempt state.2.console).1 = attempt) :
    Machine.retires? state = attempt.done? := by
  rw [Machine.retires?, Machine.told_of_attempt running attempted]
  cases attempt <;> rfl

theorem Machine.retires?_of_stopped (stopped : state.1.status ≠ .running) :
    Machine.retires? state = none := by
  rw [Machine.retires?, Machine.told, if_neg stopped]

theorem Machine.retirements_of_retires
    (retires : Machine.retires? (Machine.tick^[count] start) = some opcode) :
    Machine.retirements opcode start (count + 1) =
      Machine.retirements opcode start count ++ [count] := by
  rw [Machine.retirements, List.range_succ, List.filter_append, List.filter_cons_of_pos]
  · rfl
  · exact decide_eq_true retires

theorem Machine.retirements_of_ne
    (other : Machine.retires? (Machine.tick^[count] start) ≠ some opcode) :
    Machine.retirements opcode start (count + 1) = Machine.retirements opcode start count := by
  rw [Machine.retirements, List.range_succ, List.filter_append, List.filter_cons_of_neg]
  · exact List.append_nil _
  · exact fun retires => other (of_decide_eq_true retires)

end Retired

/-! ## What a step does to a script -/

/-- What the next step takes from the console or gives it. -/
inductive Machine.Exchanges (state : Machine × Host Scripted) : Prop
  /-- `INPUT` takes the first word and puts it on the data stack. -/
  | takes (word : Word) (retires : Machine.retires? state = some .input)
    (inputs : state.2.console.inputs = word :: (Machine.tick state).2.console.inputs)
    (outputs : (Machine.tick state).2.console.outputs = state.2.console.outputs)
    (pushed : (Machine.tick state).1.data.topFirst = word :: state.1.data.topFirst)
  /-- `PEEK` gives the word on top of the data stack. -/
  | gives (word : Word) (retires : Machine.retires? state = some .peek)
    (top : state.1.data.top? = some word)
    (inputs : (Machine.tick state).2.console.inputs = state.2.console.inputs)
    (outputs : (Machine.tick state).2.console.outputs = state.2.console.outputs.push word)
  /-- No other step turns to the console, and none that is refused changes it. -/
  | nothing (input : Machine.retires? state ≠ some .input)
    (peek : Machine.retires? state ≠ some .peek)
    (console : (Machine.tick state).2.console = state.2.console)

section Step

variable {state : Machine × Host Scripted} {console next : Scripted}

theorem Scripted.of_read {word : Word} (read : Console.read console = (.ok word, next)) :
    console.inputs = word :: next.inputs ∧ next.outputs = console.outputs := by
  rcases console with ⟨_ | ⟨first, rest⟩, outputs⟩
  · cases read
  · cases read
    exact ⟨rfl, rfl⟩

theorem Scripted.of_closed {cause : ConsoleError}
    (read : Console.read console = (.error cause, next)) : next = console := by
  rcases console with ⟨_ | ⟨first, rest⟩, outputs⟩
  · cases read
    rfl
  · cases read

theorem Machine.Plans.ne_of_silent {machine : Machine} {instruction : Instruction}
    {effects : Effects} (plans : machine.Plans instruction effects .none) :
    instruction.opcode ≠ .input ∧ instruction.opcode ≠ .peek := by
  cases plans <;> exact ⟨nofun, nofun⟩

/-- An attempt that does not end with an instruction that is done leaves a script as it is. -/
theorem Machine.Attempts.console_eq {machine : Machine} {attempt : Attempt}
    (attempts : machine.Attempts console attempt next) (undone : attempt.done? = none) :
    next = console := by
  cases attempts with
  | outside decoded => rfl
  | unknown decoded => rfl
  | truncated decoded => rfl
  | refused decoded planned => rfl
  | silent decoded plans => cases undone
  | received decoded plans read => cases undone
  | unanswered decoded plans read => exact Scripted.of_closed read
  | sent decoded plans written => cases undone
  | unsent decoded plans written => cases written

/-- `INPUT` puts the word that it receives on the data stack. -/
theorem Machine.Plans.topFirst_of_input {machine : Machine} {instruction : Instruction}
    {effects : Effects} (plans : machine.Plans instruction effects .input) (word : Word) :
    (machine.commit { effects with push := some word }).data.topFirst =
      word :: machine.data.topFirst := by
  have room := (plans.admits_input word).push word rfl
  cases plans with
  | input free =>
      rw [← Stack.length_topFirst] at room
      exact Stack.topFirst_push room word

theorem Machine.exchanges (state : Machine × Host Scripted) : Machine.Exchanges state := by
  by_cases running : state.1.status = .running
  · obtain ⟨attempt, next, attempts⟩ := state.1.exists_attempts state.2.console
    have attempted := attempts.attempt_eq
    have console := Machine.console_tick running
    have left := Machine.tick_machine running (congrArg Prod.fst attempted)
    have retires := Machine.retires?_of_attempt running (congrArg Prod.fst attempted)
    rw [attempted] at console
    cases done : attempt.done? with
    | none =>
        rw [done] at retires
        refine .nothing (by rw [retires]; nofun) (by rw [retires]; nofun) ?_
        rw [console, attempts.console_eq done]
    | some opcode =>
        cases attempts with
        | silent decoded plans =>
            obtain ⟨input, peek⟩ := plans.ne_of_silent
            refine .nothing ?_ ?_ console
            · rw [retires]
              exact fun same => input (Option.some.inj same)
            · rw [retires]
              exact fun same => peek (Option.some.inj same)
        | @received instruction effects word _ decoded plans read =>
            obtain ⟨inputs, outputs⟩ := Scripted.of_read read
            obtain ⟨status, committed⟩ :=
              state.1.after_completed instruction { effects with push := some word }
            refine .takes word (retires.trans (congrArg some plans.opcode_of_input)) ?_ ?_ ?_
            · rw [console, inputs]
            · rw [console, outputs]
            · rw [left, committed]
              exact plans.topFirst_of_input word
        | @sent instruction effects word _ decoded plans written =>
            obtain ⟨peek, top⟩ := plans.opcode_of_output
            cases written
            refine .gives word (retires.trans (congrArg some peek)) ?_ ?_ ?_
            · exact Machine.top?_of_operand top
            · rw [console]
            · rw [console]
        | _ => cases done
  · have silent := Machine.retires?_of_stopped running
    refine .nothing (by rw [silent]; nofun) (by rw [silent]; nofun) ?_
    rw [Machine.tick_of_stopped running]

/-- A step that answers with a fault takes nothing from the console and gives it nothing. -/
theorem Machine.console_tick_of_faulted {fault : Fault}
    (faulted : Machine.nextOutcome state = .faulted fault) :
    (Machine.tick state).2.console = state.2.console := by
  by_cases running : state.1.status = .running
  · have attempts := state.1.attempts state.2.console
    rw [Machine.nextOutcome, Machine.step_outcome_of_running running] at faulted
    rw [Machine.console_tick running]
    apply attempts.console_eq
    cases attempted : (state.1.attempt state.2.console).1 with
    | completed instruction effects =>
        rw [attempted] at faulted
        exact absurd faulted (Machine.outcome_completed_ne_faulted _ _ _ _)
    | _ => rfl
  · rw [Machine.tick_of_stopped running]

end Step

/-! ## What a run does to a script -/

/-- A step has put a word on the data stack and done nothing else to it. -/
def Machine.Pushes (start : Machine × Host Scripted) (step : Nat) (word : Word) : Prop :=
  (Machine.tick^[step + 1] start).1.data.topFirst =
    word :: (Machine.tick^[step] start).1.data.topFirst

/-- After some steps a script that began with these inputs has lost as many of them as `INPUT`s were
retired, each of which has put its word on the data stack, and it has collected what was on top of
the stack at each retired `PEEK`. -/
structure Machine.Accounted (inputs : List Word) (start : Machine × Host Scripted) (count : Nat) :
    Prop where
  queued : (Machine.tick^[count] start).2.console.inputs =
    inputs.drop (Machine.retirements .input start count).length
  pushed : List.Forall₂ (Machine.Pushes start) (Machine.retirements .input start count)
    (inputs.take (Machine.retirements .input start count).length)
  collected : (Machine.tick^[count] start).2.console.outputs.toList.map some =
    (Machine.retirements .peek start count).map fun early =>
      (Machine.tick^[early] start).1.data.top?

section Accounted

variable {inputs : List Word} {start : Machine × Host Scripted} {count : Nat}

theorem Machine.accounted_zero (fresh : start.2.console = .ofInputs inputs) :
    Machine.Accounted inputs start 0 where
  queued := congrArg Scripted.inputs fresh
  pushed := .nil
  collected := congrArg (·.outputs.toList.map some) fresh

theorem Machine.Accounted.succ (accounted : Machine.Accounted inputs start count) :
    Machine.Accounted inputs start (count + 1) := by
  have later := Function.iterate_succ_apply' (Machine.tick (σ := Scripted)) count start
  cases Machine.exchanges (Machine.tick^[count] start) with
  | takes word retires taken outputs pushed =>
      -- the word is the first that is still queued, so it is the next one of the whole list
      have queued := accounted.queued
      have other : Machine.retires? (Machine.tick^[count] start) ≠ some .peek := by
        rw [retires]
        nofun
      rw [← later] at taken outputs pushed
      rw [taken] at queued
      refine ⟨?_, ?_, ?_⟩
      · rw [Machine.retirements_of_retires retires, List.length_append, List.length_singleton,
          ← List.tail_drop, ← queued]
        rfl
      · have next : inputs[(Machine.retirements .input start count).length]? = some word := by
          rw [← List.head?_drop, ← queued]
          rfl
        rw [Machine.retirements_of_retires retires, List.length_append, List.length_singleton,
          List.take_add_one, next]
        exact List.rel_append accounted.pushed (.cons pushed .nil)
      · rw [Machine.retirements_of_ne other, outputs]
        exact accounted.collected
  | gives word retires top kept outputs =>
      have other : Machine.retires? (Machine.tick^[count] start) ≠ some .input := by
        rw [retires]
        nofun
      rw [← later] at kept outputs
      refine ⟨?_, ?_, ?_⟩
      · rw [Machine.retirements_of_ne other, kept]
        exact accounted.queued
      · rw [Machine.retirements_of_ne other]
        exact accounted.pushed
      · rw [Machine.retirements_of_retires retires, outputs, Array.toList_push, List.map_append,
          accounted.collected, List.map_append, List.map_singleton, List.map_singleton, top]
  | nothing input peek console =>
      rw [← later] at console
      refine ⟨?_, ?_, ?_⟩
      · rw [Machine.retirements_of_ne input, console]
        exact accounted.queued
      · rw [Machine.retirements_of_ne input]
        exact accounted.pushed
      · rw [Machine.retirements_of_ne peek, console]
        exact accounted.collected

theorem Machine.accounted (fresh : start.2.console = .ofInputs inputs) (count : Nat) :
    Machine.Accounted inputs start count := by
  induction count with
  | zero => exact Machine.accounted_zero fresh
  | succ count ih => exact ih.succ

end Accounted

/-! ## Longer scripts -/

/-- The console with more words at the end of its list. -/
def Scripted.supplied (more : List Word) (console : Scripted) : Scripted :=
  { console with inputs := console.inputs ++ more }

/-- The machine with more words at the end of the list of its console. -/
def Machine.supplied (more : List Word) (state : Machine × Host Scripted) :
    Machine × Host Scripted :=
  (state.1, state.2.mapConsole (Scripted.supplied more))

/-- A machine that has not been stopped for want of a word. -/
def Machine.Fed (machine : Machine) : Prop :=
  machine.status.runState ≠ .faultLatched .malformedInput

section Longer

variable {more : List Word} {state : Machine × Host Scripted} {machine : Machine}
  {console next : Scripted} {attempt : Attempt}

/-- An attempt that finds its word finds the same word at the head of a longer list. -/
theorem Machine.Attempts.supplied (attempts : machine.Attempts console attempt next)
    (fed : attempt.code? ≠ some .malformedInput) (more : List Word) :
    machine.Attempts (console.supplied more) attempt (next.supplied more) := by
  cases attempts with
  | outside decoded => exact .outside decoded
  | unknown decoded => exact .unknown decoded
  | truncated decoded => exact .truncated decoded
  | refused decoded planned => exact .refused decoded planned
  | silent decoded plans => exact .silent decoded plans
  | received decoded plans read =>
      refine .received decoded plans ?_
      rcases console with ⟨_ | ⟨first, rest⟩, outputs⟩
      · cases read
      · cases read
        rfl
  | unanswered decoded plans read => exact absurd rfl fed
  | sent decoded plans written =>
      refine .sent decoded plans ?_
      cases written
      rfl
  | unsent decoded plans written => cases written

/-- The fault that an attempt raises is the one that is latched. -/
theorem Machine.code?_ne_of_fed (fed : (machine.after attempt).Fed) :
    attempt.code? ≠ some .malformedInput := by
  cases attempt with
  | outside => nofun
  | completed instruction effects => nofun
  | unreadable code =>
      rintro ⟨⟩
      exact fed rfl
  | refused instruction code =>
      rintro ⟨⟩
      exact fed rfl

/-- A step after which the machine has not stopped for want of a word is the same with a longer
list. -/
theorem Machine.step_supplied (fed : (Machine.tick state).1.Fed) (more : List Word) :
    Machine.nextOutcome (Machine.supplied more state) = Machine.nextOutcome state ∧
      Machine.tick (Machine.supplied more state) = Machine.supplied more (Machine.tick state) := by
  by_cases running : state.1.status = .running
  · rw [Machine.tick, Machine.step_machine_of_running running] at fed
    have attempts := (state.1.attempts state.2.console).supplied (Machine.code?_ne_of_fed fed) more
    have same := Machine.step_mapConsole (Scripted.supplied more) state.2 attempts.attempt_eq
    rw [Machine.nextOutcome, Machine.tick, Machine.supplied, same]
    exact ⟨rfl, rfl⟩
  · obtain ⟨outcome, stopped⟩ := Option.ne_none_iff_exists'.1
      fun none => running (Status.outcome?_eq_none_iff.1 none)
    rw [Machine.nextOutcome, Machine.nextOutcome, Machine.tick, Machine.tick, Machine.supplied,
      Machine.step_of_stopped stopped, Machine.step_of_stopped stopped]
    exact ⟨rfl, rfl⟩

theorem Machine.fed_of_running (running : machine.status = .running) : machine.Fed := by
  intro starved
  rw [running] at starved
  cases starved

/-- What is fed after some steps was fed before. -/
theorem Machine.fed_of_iterate_tick {early count : Nat} (before : early ≤ count)
    (fed : (Machine.tick^[count] state).1.Fed) : (Machine.tick^[early] state).1.Fed := by
  intro starved
  have stopped : (Machine.tick^[early] state).1.status ≠ .running :=
    fun running => Machine.fed_of_running running starved
  rw [Machine.iterate_tick_of_stopped_of_le before stopped] at fed
  exact fed starved

theorem Machine.supplied_iterate_tick {count : Nat} (fed : (Machine.tick^[count] state).1.Fed)
    (more : List Word) :
    Machine.tick^[count] (Machine.supplied more state) =
      Machine.supplied more (Machine.tick^[count] state) := by
  induction count with
  | zero => rfl
  | succ count ih =>
      rw [Function.iterate_succ_apply', Function.iterate_succ_apply',
        ih (Machine.fed_of_iterate_tick (Nat.le_succ count) fed)]
      rw [Function.iterate_succ_apply'] at fed
      exact (Machine.step_supplied fed more).2

/-- A run that does not end for want of a word is the same with a longer list. -/
theorem Machine.supplied_runFrom {start fuel : Nat}
    (fed : (state.1.runFrom start fuel state.2).2.1.Fed) (more : List Word) :
    state.1.runFrom start fuel (Machine.supplied more state).2 =
      ((state.1.runFrom start fuel state.2).1,
        Machine.supplied more (state.1.runFrom start fuel state.2).2) := by
  induction fuel generalizing state with
  | zero => rfl
  | succ fuel ih =>
      cases paused : state.1.atLimit start with
      | true =>
          rw [Machine.runFrom_of_atLimit paused, Machine.runFrom_of_atLimit paused]
          rfl
      | false =>
          have same (here : (Machine.tick state).1.Fed) :
              Machine.tick (state.1, (Machine.supplied more state).2) =
                Machine.supplied more (Machine.tick state) := (Machine.step_supplied here more).2
          -- the step may end the run; if not, the machine goes on and so has found its word
          rw [Machine.runFrom_tick paused] at fed
          rw [Machine.runFrom_tick paused, Machine.runFrom_tick paused]
          rcases answered : (Machine.tick state).1.status.result?
            ((Machine.tick state).1.steps - start) with _ | result
          · rw [answered] at fed
            rw [same (Machine.fed_of_running (Status.result?_eq_none_iff.1 answered)),
              Machine.supplied, answered]
            exact ih fed
          · rw [answered] at fed
            rw [same fed, Machine.supplied, answered]

theorem Machine.supplied_follow {command : Machine.Command}
    (fed : (Machine.follow state command).2.1.Fed) (more : List Word) :
    Machine.follow (Machine.supplied more state) command =
      ((Machine.follow state command).1,
        Machine.supplied more (Machine.follow state command).2) := by
  cases command with
  | step =>
      obtain ⟨outcome, next⟩ := Machine.step_supplied fed more
      rw [Machine.follow, Machine.follow, outcome, next]
  | run fuel =>
      have ran : state.1.runFrom state.1.steps fuel (Machine.supplied more state).2 = _ :=
        Machine.supplied_runFrom fed more
      exact congrArg (fun done => (Machine.Reply.ran done.1, done.2)) ran

/-- Whatever a machine is told, if it does not end for want of a word, it does the same with a
longer list. -/
theorem Machine.supplied_obey {commands : List Machine.Command}
    (fed : (Machine.obey commands state).2.1.Fed) (more : List Word) :
    Machine.obey commands (Machine.supplied more state) =
      ((Machine.obey commands state).1, Machine.supplied more (Machine.obey commands state).2) := by
  induction commands generalizing state with
  | nil => rfl
  | cons command rest ih =>
      have here : (Machine.follow state command).2.1.Fed := by
        obtain ⟨count, reached⟩ :=
          Machine.exists_iterate_tick_obey rest (Machine.follow state command).2
        rw [Machine.obey, reached] at fed
        exact Machine.fed_of_iterate_tick (Nat.zero_le count) fed
      have following : Machine.obey rest (Machine.supplied more (Machine.follow state command).2) =
          _ := ih fed
      rw [Machine.obey, Machine.supplied_follow here]
      dsimp only
      rw [following]
      rfl

end Longer

/-! ## No word is lost -/

/-- More words at the end of the list change no step of a machine that does not stop for want of a
word, and neither its replies nor where it ends. -/
structure Machine.Indifferent (more : List Word) (start : Machine × Host Scripted) : Prop where
  outcome : ∀ count early, (Machine.tick^[count] start).1.Fed → early < count →
    Machine.nextOutcome (Machine.tick^[early] (Machine.supplied more start)) =
      Machine.nextOutcome (Machine.tick^[early] start)
  reached : ∀ count, (Machine.tick^[count] start).1.Fed →
    Machine.tick^[count] (Machine.supplied more start) =
      Machine.supplied more (Machine.tick^[count] start)
  obeyed : ∀ commands, (Machine.obey commands start).2.1.Fed →
    Machine.obey commands (Machine.supplied more start) =
      ((Machine.obey commands start).1, Machine.supplied more (Machine.obey commands start).2)

theorem Machine.indifferent (more : List Word) (start : Machine × Host Scripted) :
    Machine.Indifferent more start where
  outcome count early fed before := by
    have next := Machine.fed_of_iterate_tick before fed
    rw [Machine.supplied_iterate_tick (Machine.fed_of_iterate_tick (Nat.le_of_lt before) fed)]
    rw [Function.iterate_succ_apply'] at next
    exact (Machine.step_supplied next more).1
  reached _ fed := Machine.supplied_iterate_tick fed more
  obeyed _ fed := Machine.supplied_obey fed more

/-- Every word is accounted for: those that are taken off the list and those that are given to it.
A step that raises a fault takes and gives nothing, and words at the end of the list that are not
needed make no difference. -/
theorem Machine.no_word_is_lost (program : Image) (config : Config) (inputs : List Word)
    (host : Host Scripted) :
    let start (inputs : List Word) : Machine × Host Scripted :=
      (Machine.load program config, { host with console := Scripted.ofInputs inputs })
    (∀ commands, ∃ count,
      (Machine.obey commands (start inputs)).2 = Machine.tick^[count] (start inputs)) ∧
    (∀ count, Machine.Accounted inputs (start inputs) count) ∧
    (∀ count fault, Machine.nextOutcome (Machine.tick^[count] (start inputs)) = .faulted fault →
      (Machine.tick^[count + 1] (start inputs)).2.console =
        (Machine.tick^[count] (start inputs)).2.console) ∧
    ∀ more, start (inputs ++ more) = Machine.supplied more (start inputs) ∧
      Machine.Indifferent more (start inputs) := by
  intro start
  refine ⟨fun commands => Machine.exists_iterate_tick_obey commands _, ?_, ?_, ?_⟩
  · exact fun count => Machine.accounted rfl count
  · intro count fault faulted
    rw [Function.iterate_succ_apply']
    exact Machine.console_tick_of_faulted faulted
  · exact fun more => ⟨rfl, Machine.indifferent more _⟩

/-- An `INPUT` and a `PEEK`, with one word on the list or with two. -/
theorem Machine.no_word_is_lost_of_two :
    let start (inputs : List Word) : Machine × Host Scripted :=
      (Machine.load ⟨#[0x14, 0x15], by decide⟩ {},
        .ofConsole (Scripted.ofInputs inputs) (.empty ⟨[], none⟩))
    (Machine.tick^[2] (start [7])).1.Fed ∧
      (Machine.tick^[2] (start [7])).2.console = ⟨[], #[7]⟩ ∧
      Machine.Accounted [7] (start [7]) 2 ∧
      Machine.tick^[2] (start [7, 8]) = Machine.supplied [8] (Machine.tick^[2] (start [7])) := by
  intro start
  have fetched (place : Nat) (opcode : Opcode) (plain : opcode ≠ .push) (inside : place < 2)
      (found : (#[0x14, 0x15] : Bytes)[place]? = some opcode.toByte) :
      Instruction.decode (start [7]).1.memory.bytes place = .ok ⟨opcode, none⟩ :=
    Instruction.decode_plain plain
      ((Memory.getElem?_ofBytes inside (Nat.lt_trans inside (by decide))).trans found)
  let one := (start [7]).1.after (.completed ⟨.input, none⟩ { next := 1, push := some 7 })
  let two := one.after (.completed ⟨.peek, none⟩ { next := 2 })
  obtain ⟨_, reached, console⟩ :
      _ ∧ (Machine.tick (start [7])).1 = one ∧ _ = (⟨[], #[]⟩ : Scripted) :=
    Machine.tick_of_executed ⟨rfl, rfl⟩ rfl (fetched 0 .input (by decide) (by decide) rfl) rfl
  obtain ⟨_, arrived, collected⟩ :
      _ ∧ (Machine.tick (Machine.tick (start [7]))).1 = two ∧ _ = (⟨[], #[7]⟩ : Scripted) :=
    Machine.tick_of_executed ⟨reached, console⟩ rfl
      (fetched 1 .peek (by decide) (by decide) rfl) rfl
  have fed : (Machine.tick^[2] (start [7])).1.Fed := by
    rw [Function.iterate_succ_apply', Function.iterate_one, arrived]
    exact Machine.fed_of_running rfl
  obtain ⟨_, accounted, _, longer⟩ :=
    Machine.no_word_is_lost ⟨#[0x14, 0x15], by decide⟩ {} [7] (start [7]).2
  obtain ⟨_, indifferent⟩ := longer [8]
  refine ⟨fed, ?_, accounted 2, indifferent.reached 2 fed⟩
  rw [Function.iterate_succ_apply', Function.iterate_one]
  exact collected

end TwoStack
