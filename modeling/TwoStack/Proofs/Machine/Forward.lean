import TwoStack.Proofs.Machine.StepLimit
import TwoStack.Proofs.Machine.StraightOn

/-!
# Programs that only move forward

A run has no bound of its own.  But if each instruction that is retired leaves the machine at a
higher address than its own, the instruction pointer has grown by at least the number of steps as
long as the machine goes on (`Machine.add_le_ip`), and a machine that goes on has it in memory.  So
there are no more steps than bytes from the instruction pointer to the end of memory
(`Machine.forward_run_ends`).

Only a jump, or `POPIP`, can go anywhere but right behind itself, whatever the bytes in memory were
when the program was loaded (`Machine.movesForward_of_straight`).
-/

namespace TwoStack

/-- The instructions that may go on anywhere. -/
def Opcode.jumps : List Opcode := [.jmp, .jz, .jnz, .popIp]

section Forward

variable {σ : Type} [Console σ]

/-- If the next step retires an instruction, the machine goes on at a higher address. -/
def Machine.MovesForward (state : Machine × Host σ) : Prop :=
  ∀ opcode, Machine.nextOutcome state = .retired opcode →
    state.1.ip < (Machine.tick state).1.ip

/-- The machine has stopped for good after so many steps, and a run without a step limit comes to
its end there. -/
structure Machine.StopsWithin (bound : Nat) (state : Machine × Host σ) : Prop where
  stopped : (Machine.tick^[bound] state).1.status.runState.isTerminal = true
  retired : (Machine.tick^[bound] state).1.steps ≤ state.1.steps + bound
  run : state.1.config.maxSteps = none → ∃ result,
    state.1.Answers state.2 (bound + 1) result (Machine.tick^[bound] state).1
        (Machine.tick^[bound] state).2 ∧
      state.1.run state.2 = (some result, Machine.tick^[bound] state)

theorem Status.isTerminal_runState {status : Status} (stopped : status ≠ .running) :
    status.runState.isTerminal = true := by
  cases status with
  | running => exact absurd rfl stopped
  | _ => rfl

theorem Machine.Reachable.iterate_tick {machine : Machine} (reachable : machine.Reachable)
    (host : Host σ) (count : Nat) : (Machine.tick^[count] (machine, host)).1.Reachable := by
  induction count with
  | zero => exact reachable
  | succ count ih =>
      rw [Function.iterate_succ_apply']
      exact ih.step _

variable {state : Machine × Host σ}

/-! ## Where an instruction goes on -/

/-- A plan for anything but a jump goes on right behind the instruction. -/
theorem Machine.Plans.next_eq {machine : Machine} {instruction : Instruction} {effects : Effects}
    {use : ConsoleUse} (plans : machine.Plans instruction effects use)
    (straight : instruction.opcode ∉ Opcode.jumps) :
    effects.next = machine.ip + instruction.size := by
  cases plans with
  | jmp top inside => exact absurd (show Opcode.jmp ∈ Opcode.jumps by decide) straight
  | jz top below inside => exact absurd (show Opcode.jz ∈ Opcode.jumps by decide) straight
  | jnz top below inside => exact absurd (show Opcode.jnz ∈ Opcode.jumps by decide) straight
  | popIp top inside => exact absurd (show Opcode.popIp ∈ Opcode.jumps by decide) straight
  | _ => rfl

theorem Machine.Attempts.next_eq {machine : Machine} {instruction : Instruction}
    {effects : Effects} {console next : σ}
    (attempts : machine.Attempts console (.completed instruction effects) next)
    (straight : instruction.opcode ∉ Opcode.jumps) :
    effects.next = machine.ip + instruction.size := by
  cases attempts with
  | silent decoded plans => exact plans.next_eq straight
  | received decoded plans read => exact plans.next_eq straight
  | sent decoded plans written => exact plans.next_eq straight

/-- Only a machine that goes on retires an instruction. -/
theorem Machine.running_of_retired {opcode : Opcode}
    (retired : Machine.nextOutcome state = .retired opcode) : state.1.status = .running := by
  by_contra ended
  obtain ⟨outcome, stopped⟩ := Option.ne_none_iff_exists'.1
    fun none => ended (Status.outcome?_eq_none_iff.1 none)
  rw [Machine.nextOutcome, Machine.step_of_stopped stopped] at retired
  cases retired
  cases status : state.1.status <;> rw [status] at stopped <;> cases stopped

/-- What is retired is the instruction at the instruction pointer, with its effects. -/
theorem Machine.exists_completed_of_retired {opcode : Opcode}
    (retired : Machine.nextOutcome state = .retired opcode) :
    ∃ instruction effects next,
      state.1.Attempts state.2.console (.completed instruction effects) next ∧
        instruction.opcode = opcode ∧ (Machine.tick state).1.ip = effects.next := by
  have running := Machine.running_of_retired retired
  rw [Machine.nextOutcome, Machine.step_outcome_of_running running] at retired
  have attempts := state.1.attempts state.2.console
  cases attempted : (state.1.attempt state.2.console).1 with
  | outside =>
      rw [attempted] at retired
      cases retired
  | unreadable code =>
      rw [attempted] at retired
      cases retired
  | refused instruction code =>
      rw [attempted] at retired
      cases retired
  | completed instruction effects =>
      rw [attempted] at retired attempts
      refine ⟨instruction, effects, _, attempts, ?_, ?_⟩
      · simp only [Machine.outcome] at retired
        split at retired
        · cases retired
        · split at retired
          · cases retired
          · cases retired
            rfl
      · obtain ⟨status, left⟩ := state.1.after_completed instruction effects
        rw [Machine.tick_machine running attempted, left]
        rfl

theorem Machine.opcode_of_retired {opcode : Opcode} {instruction : Instruction}
    (retired : Machine.nextOutcome state = .retired opcode)
    (decoded : Instruction.decode state.1.memory.bytes state.1.ip = .ok instruction) :
    opcode = instruction.opcode := by
  obtain ⟨other, _, _, attempts, rfl, _⟩ := Machine.exists_completed_of_retired retired
  cases decoded.symm.trans attempts.decoded_of_completed
  rfl

/-- A step that retires no jump moves the machine forward. -/
theorem Machine.movesForward_of_straight
    (straight : ∀ opcode, Machine.nextOutcome state = .retired opcode → opcode ∉ Opcode.jumps) :
    Machine.MovesForward state := by
  intro opcode retired
  obtain ⟨instruction, effects, next, attempts, rfl, behind⟩ :=
    Machine.exists_completed_of_retired retired
  rw [behind, attempts.next_eq (straight _ retired)]
  exact Nat.lt_add_of_pos_right instruction.opcode.size_pos

/-! ## The end of a run -/

/-- A machine that has only moved forward has come at least so far as it has taken steps. -/
theorem Machine.add_le_ip {count : Nat}
    (forward : ∀ early < count, Machine.MovesForward (Machine.tick^[early] state))
    (running : (Machine.tick^[count] state).1.status = .running) :
    state.1.ip + count ≤ (Machine.tick^[count] state).1.ip := by
  induction count with
  | zero => exact Nat.le_refl _
  | succ count ih =>
      have before := ih (fun early inside => forward early (Nat.lt_succ_of_lt inside))
        (Machine.running_of_iterate_tick (Nat.le_succ count) running)
      have moves := forward count (Nat.lt_succ_self count)
      rw [Function.iterate_succ_apply'] at running ⊢
      rcases Machine.running_or_outcome?_step (Machine.tick^[count] state).1
        (Machine.tick^[count] state).2 with ⟨_, opcode, retired⟩ | stopped
      · exact Nat.lt_of_le_of_lt before (moves opcode retired)
      · rw [show ((Machine.tick^[count] state).1.step (Machine.tick^[count] state).2).2.1.status =
          .running from running] at stopped
        cases stopped

/-- Where steps have stopped a machine, a run without a step limit comes to its end. -/
theorem Machine.stopsWithin_of_stopped {bound : Nat} (few : bound + 1 ≤ Machine.patience)
    (stopped : (Machine.tick^[bound] state).1.status ≠ .running) :
    Machine.StopsWithin bound state := by
  refine ⟨Status.isTerminal_runState stopped, (Machine.steps_iterate_tick_bounds state bound).2, ?_⟩
  intro unlimited
  obtain ⟨result, answered⟩ := Status.exists_result stopped
    ((Machine.tick^[bound] state).1.steps - state.1.steps)
  have answers := Machine.answers_of_stopped state bound (fun limit limited => by
    rw [unlimited] at limited
    cases limited) answered
  exact ⟨result, answers, answers.run_eq few⟩

/-- A machine that only moves forward stops after no more steps than there are bytes from its
instruction pointer to the end of memory; and it does so if it never retires a jump, also if it
stores instructions and executes them. -/
theorem Machine.forward_run_ends {machine : Machine} (reachable : machine.Reachable)
    (running : machine.status = .running) (host : Host σ) :
    ((∀ count, Machine.MovesForward (Machine.tick^[count] (machine, host))) →
        Machine.StopsWithin (memorySize - machine.ip) (machine, host)) ∧
      ((∀ count opcode, Machine.nextOutcome (Machine.tick^[count] (machine, host)) =
            .retired opcode → opcode ∉ Opcode.jumps) →
        Machine.StopsWithin (memorySize - machine.ip) (machine, host)) := by
  have ends (forward : ∀ count, Machine.MovesForward (Machine.tick^[count] (machine, host))) :
      Machine.StopsWithin (memorySize - machine.ip) (machine, host) := by
    refine Machine.stopsWithin_of_stopped
      (Nat.le_trans (Nat.succ_le_succ (Nat.sub_le _ _)) (by decide)) fun goes => ?_
    have inside := (reachable.iterate_tick host _).sound.ip_lt goes
    have far := Machine.add_le_ip (fun early _ => forward early) goes
    rw [Nat.add_sub_cancel' (Nat.le_of_lt (reachable.sound.ip_lt running))] at far
    exact absurd inside (Nat.not_lt.2 far)
  exact ⟨ends, fun straight => ends fun count =>
    Machine.movesForward_of_straight (straight count)⟩

end Forward

/-- A program of three instructions stores a `HALT` behind itself and comes to it. -/
theorem Machine.forward_run_ends_behind_itself :
    let program : Image := ⟨#[0x14, 0x14, 0x13], by decide⟩
    let start : Machine × Host Scripted := (.load program {},
      .ofConsole (Scripted.ofInputs [3, 0x16000000]) (.empty ⟨[], none⟩))
    Machine.StopsWithin 16384 start ∧ (Machine.tick^[4] start).1.status = .halted := by
  intro program start
  have fetched (place : Nat) (opcode : Opcode) (plain : opcode ≠ .push)
      (inside : place < program.bytes.size) (found : program.bytes[place]? = some opcode.toByte) :
      Instruction.decode start.1.memory.bytes place = .ok ⟨opcode, none⟩ := by
    apply Instruction.decode_plain plain
    exact (Memory.getElem?_ofBytes inside (Nat.lt_of_lt_of_le inside program.size_le)).trans found
  let one := start.1.after (.completed ⟨.input, none⟩ { next := 1, push := some 3 })
  let two := one.after (.completed ⟨.input, none⟩ { next := 2, push := some 0x16000000 })
  let stored : Effects := { next := 3, pops := 2, write := some (3, 0x16000000) }
  have plans : two.Plans ⟨.popPm, none⟩ stored .none := .popPm rfl rfl (if_pos (by decide))
  have executed (console : Scripted) :
      two.execute ⟨.popPm, none⟩ console = (.ok stored, console) := by
    rw [Machine.execute, plans.plan_eq]
  have decodedOne := fetched 0 .input (by decide) (by decide) rfl
  have decodedTwo := fetched 1 .input (by decide) (by decide) rfl
  have decodedThree := fetched 2 .popPm (by decide) (by decide) rfl
  have first : _ ∧ (Machine.tick start).1 = one ∧ _ :=
    Machine.tick_of_executed ⟨rfl, rfl⟩ rfl decodedOne rfl
  have second : _ ∧ (Machine.tick (Machine.tick start)).1 = two ∧ _ :=
    Machine.tick_of_executed first.2 rfl decodedTwo rfl
  have third : (Machine.tick^[3] start).1 = two.after (.completed ⟨.popPm, none⟩ stored) := by
    rw [Function.iterate_succ_apply', Function.iterate_succ_apply', Function.iterate_one]
    exact (Machine.tick_of_executed second.2 rfl decodedThree (executed _)).2.1
  rw [Machine.after_of_goes rfl rfl, if_pos (show 3 < memorySize by decide)] at third
  have arrived : Instruction.decode two.memory.bytes two.ip = .ok ⟨.popPm, none⟩ := decodedThree
  clear_value two
  have running : (Machine.tick^[3] start).1.status = .running := by
    rw [third]
  have ip : (Machine.tick^[3] start).1.ip = 3 := by
    rw [third]
    rfl
  have bytes : (Machine.tick^[3] start).1.memory.bytes =
      two.memory.bytes.storeWord 3 0x16000000 := by
    rw [third]
    rfl
  have decodedFour : Instruction.decode (Machine.tick^[3] start).1.memory.bytes
      (Machine.tick^[3] start).1.ip = .ok ⟨.halt, none⟩ := by
    rw [ip, bytes]
    apply Instruction.decode_plain (by decide)
    rw [Bytes.getElem?_storeWord _ _ _ _ (by rw [Memory.size_bytes]; decide)]
    rfl
  have halted : (Machine.tick^[4] start).1.status = .halted := by
    have attempts : (Machine.tick^[3] start).1.Attempts (Machine.tick^[3] start).2.console _ _ :=
      .silent decodedFour .halt
    rw [Function.iterate_succ_apply', Machine.tick_machine running
      (congrArg Prod.fst attempts.attempt_eq)]
    rfl
  have straight (count : Nat) (here : Opcode)
      (decoded : Instruction.decode (Machine.tick^[count] start).1.memory.bytes
        (Machine.tick^[count] start).1.ip = .ok ⟨here, none⟩)
      (plain : here ∉ Opcode.jumps) (opcode : Opcode)
      (retired : Machine.nextOutcome (Machine.tick^[count] start) = .retired opcode) :
      opcode ∉ Opcode.jumps := by
    rw [Machine.opcode_of_retired retired decoded]
    exact plain
  have ends : (∀ count opcode, Machine.nextOutcome (Machine.tick^[count] start) = .retired opcode →
      opcode ∉ Opcode.jumps) → Machine.StopsWithin 16384 start :=
    (Machine.forward_run_ends (.load program {}) rfl start.2).2
  refine ⟨ends fun count => ?_, halted⟩
  rcases count with _ | _ | _ | _ | count
  · exact straight 0 .input decodedOne (by decide)
  · refine straight 1 .input ?_ (by decide)
    rw [Function.iterate_one, first.2.1]
    exact decodedTwo
  · refine straight 2 .popPm ?_ (by decide)
    rw [Function.iterate_succ_apply', Function.iterate_one, second.2.1]
    exact arrived
  · exact straight 3 .halt decodedFour (by decide)
  · intro opcode retired
    have goes := Machine.running_of_retired retired
    have later : 4 ≤ count + 1 + 1 + 1 + 1 := Nat.le_add_left 4 count
    have before := Machine.running_of_iterate_tick later goes
    rw [halted] at before
    cases before

end TwoStack
