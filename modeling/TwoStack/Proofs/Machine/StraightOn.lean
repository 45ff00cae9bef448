import TwoStack.Proofs.Machine.LastWrite

/-!
# Machines that go straight on

A disassembly reads the bytes of a program, and their end is where it stops.  A machine reads
memory, in which the program is followed by zero bytes.  As long as a machine goes on right behind
each instruction and stores nothing (`Machine.PassesOver`), the two read the same: each row of the
disassembly is the instruction that the machine starts next (`Reads.starts`).

Which instruction a step starts and retires is read off what it tells a trace, `Machine.told`, and a
trace hears nothing else (`Machine.trace_tick_eq`).

A machine that comes to the end of the program in this way, and was not halted by its last
instruction, passes over the zero bytes as so many `NOP`s, up to the end of memory
(`Machine.Arrives.runsOff`).
-/

namespace TwoStack

/-! ## What a step tells -/

section Told

variable {σ : Type} [Console σ]

/-- What the next step tells a trace. -/
def Machine.told (state : Machine × Host σ) : List TraceEvent :=
  if state.1.status = .running then
    (state.1.attempt state.2.console).1.events state.1.ip (Machine.tick state).1
  else []

/-- The next step retires an instruction, which is not a `POPPM`, and goes on right behind it. -/
def Machine.PassesOver (state : Machine × Host σ) : Prop :=
  ∃ instruction depth, instruction.opcode ≠ .popPm ∧
    Machine.told state = [.start state.1.ip instruction,
      .retired state.1.ip (state.1.ip + instruction.size) depth]

variable {state : Machine × Host σ} {instruction : Instruction} {effects : Effects}

/-- A trace is told this, and nothing else. -/
theorem Machine.trace_tick_eq (state : Machine × Host σ) :
    (Machine.tick state).2.trace =
      state.2.trace.map ((Machine.told state).foldl TraceSink.hear) := by
  by_cases running : state.1.status = .running
  · rw [Machine.told, if_pos running]
    exact Machine.trace_tick running rfl
  · rw [Machine.told, if_neg running, Machine.tick_of_stopped running]
    simp

theorem Machine.told_of_attempt {attempt : Attempt} (running : state.1.status = .running)
    (attempted : (state.1.attempt state.2.console).1 = attempt) :
    Machine.told state = attempt.events state.1.ip (state.1.after attempt) := by
  rw [Machine.told, if_pos running, attempted, Machine.tick_machine running attempted]

/-- The instruction at the instruction pointer of a running machine is the one that is started. -/
theorem Machine.head?_told (running : state.1.status = .running)
    (decoded : Instruction.decode state.1.memory.bytes state.1.ip = .ok instruction) :
    (Machine.told state).head? = some (.start state.1.ip instruction) := by
  have attempts := state.1.attempts state.2.console
  cases attempted : (state.1.attempt state.2.console).1 with
  | outside =>
      rw [attempted] at attempts
      cases decoded.symm.trans attempts.fetched_eq.symm
  | unreadable code =>
      rw [attempted] at attempts
      obtain ⟨cause, undecoded⟩ := attempts.undecoded
      cases decoded.symm.trans undecoded
  | refused other code =>
      rw [attempted] at attempts
      cases decoded.symm.trans attempts.decoded_of_refused
      rw [Machine.told_of_attempt running attempted]
      rfl
  | completed other effects =>
      rw [attempted] at attempts
      cases decoded.symm.trans attempts.decoded_of_completed
      rw [Machine.told_of_attempt running attempted]
      rfl

/-- Two events of which the second is a retirement come from an instruction that is done. -/
theorem Machine.completed_of_told {ip next depth : Nat}
    (events : Machine.told state = [.start ip instruction, .retired ip next depth]) :
    ∃ effects, state.1.status = .running ∧
      (state.1.attempt state.2.console).1 = .completed instruction effects ∧
      (Machine.tick state).1.ip = next := by
  by_cases running : state.1.status = .running
  · cases attempted : (state.1.attempt state.2.console).1 with
    | outside =>
        rw [Machine.told_of_attempt running attempted] at events
        cases events
    | unreadable code =>
        rw [Machine.told_of_attempt running attempted] at events
        cases events
    | refused other code =>
        rw [Machine.told_of_attempt running attempted] at events
        cases events
    | completed other effects =>
        rw [Machine.told_of_attempt running attempted] at events
        cases events
        exact ⟨effects, running, rfl, congrArg Machine.ip (Machine.tick_machine running attempted)⟩
  · rw [Machine.told, if_neg running] at events
    cases events

/-- An instruction that needs nothing from the console and goes on right behind itself. -/
theorem Machine.Plans.passesOver (plans : state.1.Plans instruction effects .none)
    (running : state.1.status = .running)
    (decoded : Instruction.decode state.1.memory.bytes state.1.ip = .ok instruction)
    (plain : instruction.opcode ≠ .popPm) (behind : effects.next = state.1.ip + instruction.size) :
    Machine.PassesOver state ∧
      (Machine.tick state).1 = state.1.after (.completed instruction effects) := by
  have attempts : state.1.Attempts state.2.console (.completed instruction effects)
      state.2.console := .silent decoded plans
  have attempted := congrArg Prod.fst attempts.attempt_eq
  obtain ⟨status, left⟩ := state.1.after_completed instruction effects
  refine ⟨⟨instruction, (state.1.commit effects).data.depth, plain, ?_⟩,
    Machine.tick_machine running attempted⟩
  rw [Machine.told_of_attempt running attempted, left, ← behind]
  rfl

end Told

/-! ## Instructions that go on -/

section Goes

variable {σ : Type} [Console σ] {machine : Machine} {console next : σ} {instruction : Instruction}
  {effects : Effects}

theorem Machine.Plans.write_eq_none {use : ConsoleUse}
    (plans : machine.Plans instruction effects use) (plain : instruction.opcode ≠ .popPm) :
    effects.write = none := by
  cases plans with
  | popPm => exact absurd rfl plain
  | _ => rfl

/-- Only `HALT` halts, and only `POPPM` stores anything. -/
theorem Machine.Attempts.goes_and_keeps
    (attempts : machine.Attempts console (.completed instruction effects) next)
    (goes : instruction.opcode ≠ .halt) (plain : instruction.opcode ≠ .popPm) :
    effects.halts = false ∧ effects.write = none := by
  cases attempts with
  | silent decoded plans =>
      exact ⟨Bool.eq_false_iff.2 fun halts => goes (plans.of_halts halts).1,
        plans.write_eq_none plain⟩
  | received decoded plans read =>
      cases plans
      exact ⟨rfl, rfl⟩
  | sent decoded plans written =>
      cases plans
      exact ⟨rfl, rfl⟩

/-- An instruction that does not halt leaves a machine that goes on, unless it has left memory. -/
theorem Machine.after_of_goes (running : machine.status = .running)
    (goes : effects.halts = false) :
    machine.after (.completed instruction effects) =
      { machine.commit effects with
        status := if effects.next < memorySize then .running else .endOfMemory } := by
  rcases machine with ⟨memory, data, returns, ip, steps, status, config⟩
  cases running
  have here : (Machine.commit ⟨memory, data, returns, ip, steps, .running, config⟩ effects).ip =
      effects.next := rfl
  simp only [Machine.after, goes, Bool.false_eq_true, if_false, here]
  by_cases inside : effects.next < memorySize
  · rw [if_neg (Nat.not_le.2 inside), if_pos inside]
    rfl
  · rw [if_pos (Nat.not_lt.1 inside), if_neg inside]

end Goes

/-! ## Over the rows of a disassembly -/

/-- A machine that has come to an address of its program and has changed nothing in memory. -/
structure Machine.Arrives (program : Image) (address : Nat) (machine : Machine) : Prop where
  memory : machine.memory = .ofBytes program.bytes
  ip : machine.ip = address
  status : machine.status = if address < memorySize then .running else .endOfMemory

section Arrives

variable {program : Image} {address : Nat} {machine : Machine} {instruction : Instruction}

theorem Machine.arrives_load (program : Image) (config : Config) :
    Machine.Arrives program 0 (.load program config) :=
  ⟨rfl, rfl, rfl⟩

theorem Machine.Arrives.running (arrives : Machine.Arrives program address machine)
    (inside : address < memorySize) : machine.status = .running := by
  rw [arrives.status, if_pos inside]

/-- An instruction of the program is in memory where the machine has come to it. -/
theorem Machine.Arrives.decode_eq (arrives : Machine.Arrives program address machine)
    (decoded : Instruction.decode program.bytes address = .ok instruction) :
    Instruction.decode machine.memory.bytes machine.ip = .ok instruction := by
  rw [arrives.memory, arrives.ip]
  apply (Instruction.wellFormed_of_decode decoded).decode_ofBytes program.size_le
  rw [Instruction.encoding_of_decode decoded]
  exact List.prefix_append _ _

end Arrives

section Rows

variable {σ : Type} [Console σ] {program : Image} {address : Nat} {state : Machine × Host σ}
  {instruction : Instruction} {rows : List Row}

/-- The instruction of the program to which the machine has come is started. -/
theorem Machine.Arrives.head?_told (arrives : Machine.Arrives program address state.1)
    (decoded : Instruction.decode program.bytes address = .ok instruction) :
    (Machine.told state).head? = some (.start address instruction) := by
  have inside := Nat.lt_of_lt_of_le (Instruction.lt_size_of_decode decoded) program.size_le
  rw [Machine.head?_told (arrives.running inside) (arrives.decode_eq decoded), arrives.ip]

/-- A machine that passes over an instruction of the program other than `HALT` has come to the
next one. -/
theorem Machine.Arrives.tick (arrives : Machine.Arrives program address state.1)
    (decoded : Instruction.decode program.bytes address = .ok instruction)
    (goes : instruction.opcode ≠ .halt) (passes : Machine.PassesOver state) :
    Machine.Arrives program (address + instruction.size) (Machine.tick state).1 := by
  obtain ⟨other, depth, plain, events⟩ := passes
  obtain ⟨effects, running, attempted, behind⟩ := Machine.completed_of_told events
  have attempts := state.1.attempts state.2.console
  rw [attempted] at attempts
  -- memory is still the loaded program, so what was started is the instruction of the program
  cases (arrives.decode_eq decoded).symm.trans attempts.decoded_of_completed
  obtain ⟨stays, keeps⟩ := attempts.goes_and_keeps goes plain
  have left := Machine.tick_machine running attempted
  rw [Machine.after_of_goes running stays] at left
  have next : effects.next = address + instruction.size := by
    rw [left, arrives.ip] at behind
    exact behind
  rw [left]
  refine ⟨?_, next, congrArg (if · < memorySize then Status.running else .endOfMemory) next⟩
  rw [← arrives.memory]
  simp only [Machine.commit, keeps]

/-- Each row that is read is the instruction that is started next, if all before were passed
over. -/
theorem Reads.starts (reads : Reads program.bytes address rows)
    (arrives : Machine.Arrives program address state.1) {count : Nat} {row : Row}
    (listed : rows[count]? = some row)
    (passes : ∀ early < count, Machine.PassesOver (Machine.tick^[early] state)) :
    (Machine.told (Machine.tick^[count] state)).head? =
      some (.start row.address row.instruction) := by
  induction reads generalizing state count with
  | done ended => cases listed
  | halt decoded halts =>
      cases count with
      | zero =>
          cases listed
          exact arrives.head?_told decoded
      | succ count => cases listed
  | next decoded goes more ih =>
      cases count with
      | zero =>
          cases listed
          exact arrives.head?_told decoded
      | succ count =>
          -- the machine has come to where the other rows are read from
          rw [Function.iterate_succ_apply]
          exact ih (arrives.tick decoded goes (passes 0 (Nat.succ_pos count))) listed
            fun early before => passes (early + 1) (Nat.succ_lt_succ before)

/-- Behind rows without a `HALT` a machine that has passed over all of them comes to their end. -/
theorem Reads.arrives (reads : Reads program.bytes address rows)
    (arrives : Machine.Arrives program address state.1)
    (goes : ∀ row ∈ rows, row.instruction.opcode ≠ .halt)
    (passes : ∀ early < rows.length, Machine.PassesOver (Machine.tick^[early] state)) :
    Machine.Arrives program (address + rowsSize rows)
      (Machine.tick^[rows.length] state).1 := by
  induction reads generalizing state with
  | done ended => exact arrives
  | halt decoded halts => exact absurd halts (goes _ List.mem_cons_self)
  | next decoded other more ih =>
      rw [List.forall_mem_cons] at goes
      rw [List.length_cons, Function.iterate_succ_apply, rowsSize_cons, ← Nat.add_assoc]
      exact ih (arrives.tick decoded other (passes 0 (Nat.succ_pos _))) goes.2
        fun early before => passes (early + 1) (Nat.succ_lt_succ before)

/-- A `HALT` can only be the last row. -/
theorem Reads.goes {bytes : Bytes} (reads : Reads bytes address rows)
    (last : ∀ row, rows.getLast? = some row → row.instruction.opcode ≠ .halt) :
    ∀ row ∈ rows, row.instruction.opcode ≠ .halt := by
  induction reads with
  | done ended => exact nofun
  | halt decoded halts => exact absurd halts (last _ rfl)
  | @next address instruction rows decoded goes more ih =>
      rw [List.forall_mem_cons]
      refine ⟨goes, ih fun row found => last row ?_⟩
      rw [List.getLast?_cons, found]
      rfl

end Rows

/-! ## Behind the program -/

/-- A machine after so many instructions that do nothing. -/
def Machine.passed (machine : Machine) (count : Nat) : Machine :=
  { machine with
    ip := machine.ip + count
    steps := machine.steps + count
    status := if machine.ip + count < memorySize then .running else .endOfMemory }

/-- From the end of its program a machine passes over one `NOP` for each address that is left, and
stops at the end of memory.  Stacks and memory stay as they are, and so does the console. -/
structure Machine.RunsOff {σ : Type} [Console σ] (program : Image) (start : Machine × Host σ) :
    Prop where
  nops : ∀ more < memorySize - program.size,
    Machine.told (Machine.tick^[more] start) = [.start (program.size + more) ⟨.nop, none⟩,
      .retired (program.size + more) (program.size + more + 1) start.1.data.depth]
  machine : (Machine.tick^[memorySize - program.size] start).1 =
    { start.1 with
      ip := memorySize
      steps := start.1.steps + (memorySize - program.size)
      status := .endOfMemory }
  console : (Machine.tick^[memorySize - program.size] start).2.console = start.2.console

section Behind

variable {σ : Type} [Console σ] {program : Image} {address : Nat} {state : Machine × Host σ}

theorem Machine.Arrives.passed_zero {machine : Machine}
    (arrives : Machine.Arrives program address machine) : machine.passed 0 = machine := by
  have status := arrives.status
  rw [← arrives.ip] at status
  exact congrArg (fun status => { machine with status }) status.symm

theorem Machine.Arrives.passed {machine : Machine}
    (arrives : Machine.Arrives program address machine) (count : Nat) :
    Machine.Arrives program (address + count) (machine.passed count) := by
  rw [← arrives.ip]
  exact ⟨arrives.memory, rfl, rfl⟩

/-- Behind its program a machine reads a zero byte, which is a `NOP`. -/
theorem Machine.Arrives.attempts_nop (arrives : Machine.Arrives program address state.1)
    (beyond : program.size ≤ address) (inside : address < memorySize) :
    state.1.attempt state.2.console =
      (.completed ⟨.nop, none⟩ { next := state.1.ip + 1 }, state.2.console) := by
  have zero : state.1.memory.bytes[state.1.ip]? = some Opcode.nop.toByte := by
    rw [arrives.memory, arrives.ip]
    exact Memory.getElem?_ofBytes_of_le beyond inside
  have decoded : Instruction.decode state.1.memory.bytes state.1.ip = .ok ⟨.nop, none⟩ :=
    Instruction.decode_plain (by decide) zero
  exact (Machine.Attempts.silent decoded .nop).attempt_eq

/-- A `NOP` behind the program. -/
theorem Machine.Arrives.tick_nop (arrives : Machine.Arrives program address state.1)
    (beyond : program.size ≤ address) (inside : address < memorySize) :
    Machine.told state = [.start address ⟨.nop, none⟩,
        .retired address (address + 1) state.1.data.depth] ∧
      (Machine.tick state).1 = state.1.passed 1 ∧
      (Machine.tick state).2.console = state.2.console := by
  have attempted := arrives.attempts_nop beyond inside
  have running := arrives.running inside
  have left : state.1.after (.completed ⟨.nop, none⟩ { next := state.1.ip + 1 }) =
      state.1.passed 1 := Machine.after_of_goes running rfl
  refine ⟨?_, ?_, ?_⟩
  · rw [Machine.told_of_attempt running (congrArg Prod.fst attempted), left, ← arrives.ip]
    rfl
  · rw [Machine.tick_machine running (congrArg Prod.fst attempted), left]
  · rw [Machine.console_tick running, attempted]

theorem Machine.passed_passed (machine : Machine) (count more : Nat) :
    (machine.passed count).passed more = machine.passed (count + more) := by
  simp only [Machine.passed, Nat.add_assoc]

theorem Machine.Arrives.iterate_tick (arrives : Machine.Arrives program address state.1)
    (beyond : program.size ≤ address) {count : Nat} (within : address + count ≤ memorySize) :
    (Machine.tick^[count] state).1 = state.1.passed count ∧
      (Machine.tick^[count] state).2.console = state.2.console := by
  induction count with
  | zero => exact ⟨arrives.passed_zero.symm, rfl⟩
  | succ count ih =>
      obtain ⟨reached, console⟩ := ih (Nat.le_of_succ_le within)
      have here := arrives.passed count
      rw [← reached] at here
      obtain ⟨_, next, kept⟩ := here.tick_nop (Nat.le_add_right_of_le beyond) within
      rw [Function.iterate_succ_apply', next, kept, reached, Machine.passed_passed]
      exact ⟨rfl, console⟩

/-- A machine that has come to the end of its program runs off the end of memory. -/
theorem Machine.Arrives.runsOff (arrives : Machine.Arrives program program.size state.1) :
    Machine.RunsOff program state := by
  have fits : program.size ≤ memorySize := program.size_le
  have whole : program.size + (memorySize - program.size) = memorySize := Nat.add_sub_cancel' fits
  obtain ⟨reached, console⟩ := arrives.iterate_tick (Nat.le_refl _) (Nat.le_of_eq whole)
  refine ⟨?_, ?_, console⟩
  · intro more within
    have inside : program.size + more < memorySize := by omega
    obtain ⟨passed, _⟩ := arrives.iterate_tick (Nat.le_refl _) (Nat.le_of_lt inside)
    have here := arrives.passed more
    rw [← passed] at here
    obtain ⟨told, _, _⟩ := here.tick_nop (Nat.le_add_right _ _) inside
    rw [told, passed]
    rfl
  · rw [reached, Machine.passed, arrives.ip, whole, if_neg (Nat.lt_irrefl _)]

end Behind

/-! ## A machine and the disassembly of its program -/

section Agreement

variable {σ : Type} [Console σ]

/-- A machine that passes over its first instructions starts next the instruction of the next row of
the disassembly.  If it has passed over all rows, and the last one is not a `HALT`, it runs off the
end of memory. -/
theorem Machine.follows_disassembly (program : Image) (config : Config) (host : Host σ)
    {rows : Array Row} (read : disassemble program.bytes = .ok rows) :
    let state (count : Nat) := Machine.tick^[count] (Machine.load program config, host)
    (∀ count row, rows[count]? = some row → (∀ early < count, Machine.PassesOver (state early)) →
      (Machine.told (state count)).head? = some (.start row.address row.instruction)) ∧
    ((∀ row, rows.back? = some row → row.instruction.opcode ≠ .halt) →
      (∀ early < rows.size, Machine.PassesOver (state early)) →
      Machine.RunsOff program (state rows.size)) := by
  intro state
  have reads := disassemble_eq_ok_iff.1 read
  have loaded := Machine.arrives_load program config
  constructor
  · intro count row listed passes
    rw [← Array.getElem?_toList] at listed
    exact Reads.starts reads loaded listed passes
  · intro last passes
    have goes := reads.goes fun row found => last row (rows.getLast?_toList ▸ found)
    have whole : 0 + rowsSize rows.toList = program.size :=
      reads.add_rowsSize_eq (Nat.zero_le _) fun row listed halts =>
        absurd halts (goes row listed)
    have ended : Machine.Arrives program (0 + rowsSize rows.toList) (state rows.size).1 :=
      Reads.arrives reads loaded goes passes
    rw [whole] at ended
    exact ended.runsOff

/-- Two words and a jump that is not taken. -/
theorem Machine.follows_disassembly_over_jump :
    let program : Image := ⟨#[0x0D, 0, 0, 0, 1, 0x0D, 0, 0, 0, 0, 0x0B], by decide⟩
    let rows : Array Row := #[⟨0, .push, some 1⟩, ⟨5, .push, some 0⟩, ⟨10, .jz, none⟩]
    let host : Host Scripted := .ofConsole (Scripted.ofInputs []) (.empty ⟨[], none⟩)
    let state (count : Nat) := Machine.tick^[count] (Machine.load program {}, host)
    disassemble program.bytes = .ok rows ∧ (∀ early < rows.size, Machine.PassesOver (state early)) ∧
      (Machine.told (state 2)).head? = some (.start 10 ⟨.jz, none⟩) ∧
      Machine.RunsOff program (state 3) := by
  intro program rows host state
  have first : Instruction.decode program.bytes 0 = .ok ⟨.push, some 1⟩ :=
    (Instruction.wellFormed_push 1).decode_eq rfl
  have second : Instruction.decode program.bytes 5 = .ok ⟨.push, some 0⟩ :=
    (Instruction.wellFormed_push 0).decode_eq rfl
  have third : Instruction.decode program.bytes 10 = .ok ⟨.jz, none⟩ :=
    Instruction.decode_plain (by decide) rfl
  have read : disassemble program.bytes = .ok rows := by
    rw [disassemble_eq_ok_iff]
    exact .next first (by decide) (.next second (by decide) (.next third (by decide)
      (.done (by decide))))
  let one := (Machine.load program {}).after
    (.completed ⟨.push, some 1⟩ { next := 5, push := some 1 })
  let two := one.after (.completed ⟨.push, some 0⟩ { next := 10, push := some 0 })
  have loaded : Machine.Arrives program 0 (state 0).1 := Machine.arrives_load program {}
  obtain ⟨passes, left⟩ := Machine.Plans.passesOver (.push rfl) (loaded.running (by decide))
    (loaded.decode_eq first) (by decide) rfl
  have later (count : Nat) : state (count + 1) = Machine.tick (state count) :=
    Function.iterate_succ_apply' _ _ _
  rw [← later] at left
  have next : Machine.Arrives program 5 (state 1).1 := by
    rw [later]
    exact loaded.tick first (by decide) passes
  have reached : (state 1).1 = one := left
  have plans : (state 1).1.Plans ⟨.push, some 0⟩ { next := 10, push := some 0 } .none :=
    reached ▸ .push rfl
  obtain ⟨passesNext, leftNext⟩ := plans.passesOver (next.running (by decide))
    (next.decode_eq second) (by decide) (next.ip ▸ rfl)
  rw [← later] at leftNext
  have last : Machine.Arrives program 10 (state 2).1 := by
    rw [later]
    exact next.tick second (by decide) passesNext
  have reachedLast : (state 2).1 = two := by rw [leftNext, reached]
  have jump : (state 2).1.Plans ⟨.jz, none⟩
      { next := if (1 : Word) = 0 then 0 else 11, pops := 2 } .none :=
    reachedLast ▸ .jz rfl rfl (if_pos (by decide))
  obtain ⟨passesLast, _⟩ := jump.passesOver (last.running (by decide))
    (last.decode_eq third) (by decide) (last.ip ▸ rfl)
  have passed : ∀ early < rows.size, Machine.PassesOver (state early) := by
    intro early inside
    rcases early with _ | _ | _ | early
    · exact passes
    · exact passesNext
    · exact passesLast
    · exact absurd inside (Nat.not_lt.2 (Nat.le_add_left 3 early))
  obtain ⟨starts, runs⟩ := Machine.follows_disassembly program {} host read
  refine ⟨read, passed, starts 2 ⟨10, .jz, none⟩ rfl ?_, runs ?_ passed⟩
  · exact fun early before => passed early (Nat.lt_trans before (by decide))
  · rintro row ⟨⟩
    decide

end Agreement

end TwoStack
