import TwoStack.Proofs.Assembly.Calls
import TwoStack.Proofs.Machine.Effects
import TwoStack.Proofs.Machine.Stopping

/-!
# Calls and returns

A machine that stands at a call and has room for one entry on each stack enters the routine in four
steps, with the address after the call on the instruction stack.  `POPIP` goes back there, and the
instruction stack is what it was before the call (`Machine.call_returns`).

For calls within calls there is a list of the calls that have been entered and not left, innermost
first.  `Machine.Pending` keeps it along the steps of a machine: a call puts its place in front,
`POPIP` removes the first, and whatever happens in between leaves the instruction stack as it found
it.  The instruction stack then holds the addresses after these calls, in that order
(`Machine.Pending.topFirst_returns`), so the calls are left in the reverse order.
-/

namespace TwoStack

variable {σ : Type} [Console σ]

/-! ## Instructions that are retired -/

/-- Steps that retire these instructions, one after the other, and do not touch the console. -/
inductive Machine.Retires : List Opcode → Machine → Host σ → Machine → Host σ → Prop
  | none (machine : Machine) (host : Host σ) : Retires [] machine host machine host
  | next {opcode : Opcode} {opcodes : List Opcode} {machine middle last : Machine}
    {host between after : Host σ}
    (stepped : machine.step host = (.retired opcode, middle, between))
    (silent : between.console = host.console)
    (more : Retires opcodes middle between last after) :
    Retires (opcode :: opcodes) machine host last after

section Retires

variable {machine middle last : Machine} {host between after : Host σ}
  {opcodes front back : List Opcode}

theorem Machine.Retires.append (first : Machine.Retires front machine host middle between)
    (second : Machine.Retires back middle between last after) :
    Machine.Retires (front ++ back) machine host last after := by
  induction first with
  | none machine host => exact second
  | next stepped silent more ih => exact .next stepped silent (ih second)

theorem Machine.Retires.console_eq (retires : Machine.Retires opcodes machine host last after) :
    after.console = host.console := by
  induction retires with
  | none machine host => rfl
  | next stepped silent more ih => exact ih.trans silent

theorem Machine.Retires.iterate_tick (retires : Machine.Retires opcodes machine host last after) :
    Machine.tick^[opcodes.length] (machine, host) = (last, after) := by
  induction retires with
  | none machine host => rfl
  | next stepped silent more ih =>
      rw [List.length_cons, Function.iterate_succ_apply, Machine.tick, stepped]
      exact ih

end Retires

/-! ## The instructions of a call -/

theorem codeAddress_of_lt {address : Nat} (inside : address < memorySize) :
    codeAddress address = .ok address :=
  if_pos ⟨Int.natCast_nonneg address, Int.ofNat_lt.2 inside⟩

theorem toInt_ofNat_of_le {address : Nat} (inside : address ≤ memorySize) :
    (Int32.ofNat address).toInt = address :=
  Int32.toInt_ofNat_of_lt (Nat.lt_of_le_of_lt inside (by decide))

section Instructions

variable {machine : Machine}

/-- The machine that has executed `PUSH`. -/
def Machine.pushed (machine : Machine) (word : Word) : Machine :=
  { machine with
    data := machine.data.push word, ip := machine.ip + 5, steps := machine.steps + 1 }

/-- `PUSH` puts its operand on the data stack, if there is room. -/
theorem Machine.step_push {word : Word} (running : machine.status = .running)
    (decoded : Instruction.decode machine.memory.bytes machine.ip = .ok ⟨.push, some word⟩)
    (room : machine.data.depth < machine.data.capacity) (inside : machine.ip + 5 < memorySize)
    (host : Host σ) :
    ∃ after, machine.step host = (.retired .push, machine.pushed word, after) ∧
      after.console = host.console :=
  Machine.Plans.step_eq (.push (Machine.requireRoom_of_lt room)) running decoded rfl inside host

theorem Machine.operand_pushed (room : machine.data.depth < machine.data.capacity) (word : Word) :
    (machine.pushed word).operand 0 = .ok word := by
  rw [← Stack.length_topFirst] at room
  rw [Machine.operand, Machine.pushed, Stack.peek?_eq_topFirst, Stack.topFirst_push room]
  rfl

/-- `PUSHIP` of an address moves it to the instruction stack. -/
theorem Machine.step_pushIp {address : Nat} (running : machine.status = .running)
    (decoded : Instruction.decode machine.memory.bytes machine.ip = .ok ⟨.pushIp, none⟩)
    (top : machine.operand 0 = .ok (Int32.ofNat address)) (small : address ≤ memorySize)
    (room : machine.returns.depth < machine.returns.capacity)
    (inside : machine.ip + 1 < memorySize) (host : Host σ) :
    ∃ after, machine.step host =
        (.retired .pushIp,
          { machine with
            data := machine.data.pop, returns := machine.returns.push address,
            ip := machine.ip + 1, steps := machine.steps + 1 },
          after) ∧ after.console = host.console := by
  have value := toInt_ofNat_of_le small
  have nonnegative : ¬Int32.ofNat address < 0 := by
    rw [Int32.lt_iff_toInt_lt, value]
    exact Int.not_lt.2 (Int.natCast_nonneg address)
  have plans : machine.Plans ⟨.pushIp, none⟩ _ .none :=
    .pushIp top nonnegative (Machine.requireRoom_of_lt room)
  rw [value] at plans
  exact plans.step_eq running decoded rfl inside host

/-- `JMP` to an address in memory goes there. -/
theorem Machine.step_jmp {target : Nat} (running : machine.status = .running)
    (decoded : Instruction.decode machine.memory.bytes machine.ip = .ok ⟨.jmp, none⟩)
    (top : machine.operand 0 = .ok (Int32.ofNat target)) (inside : target < memorySize)
    (host : Host σ) :
    ∃ after, machine.step host =
        (.retired .jmp,
          { machine with data := machine.data.pop, ip := target, steps := machine.steps + 1 },
          after) ∧ after.console = host.console := by
  have address : codeAddress (Int32.ofNat target).toInt = .ok target := by
    rw [toInt_ofNat_of_le (Nat.le_of_lt inside)]
    exact codeAddress_of_lt inside
  exact Machine.Plans.step_eq (.jmp top address) running decoded rfl inside host

/-- `PUSH` and `PUSHIP` put an address on the instruction stack. -/
theorem Machine.retires_pushIp {address : Nat} (running : machine.status = .running)
    (first : Instruction.decode machine.memory.bytes machine.ip =
      .ok ⟨.push, some (Int32.ofNat address)⟩)
    (second : Instruction.decode machine.memory.bytes (machine.ip + 5) = .ok ⟨.pushIp, none⟩)
    (small : address ≤ memorySize) (inside : machine.ip + 6 < memorySize)
    (data : machine.data.depth < machine.data.capacity)
    (returns : machine.returns.depth < machine.returns.capacity) (host : Host σ) :
    ∃ after, Machine.Retires [.push, .pushIp] machine host
      { machine with
        returns := machine.returns.push address, ip := machine.ip + 6, steps := machine.steps + 2 }
      after := by
  let middle := machine.pushed (Int32.ofNat address)
  have goes : middle.status = .running := running
  have top : middle.operand 0 = .ok (Int32.ofNat address) := Machine.operand_pushed data _
  obtain ⟨between, pushed, silent⟩ :=
    Machine.step_push running first data (Nat.lt_of_succ_lt inside) host
  obtain ⟨after, moved, still⟩ := Machine.step_pushIp goes second top small returns inside between
  have restored : middle.data.pop = machine.data := Stack.pop_push data _
  -- the address was on the data stack only in between
  rw [restored] at moved
  exact ⟨after, .next pushed silent (.next moved still (.none _ _))⟩

/-- `PUSH` and `JMP` go to an address. -/
theorem Machine.retires_jmp {target : Nat} (running : machine.status = .running)
    (first : Instruction.decode machine.memory.bytes machine.ip =
      .ok ⟨.push, some (Int32.ofNat target)⟩)
    (second : Instruction.decode machine.memory.bytes (machine.ip + 5) = .ok ⟨.jmp, none⟩)
    (inside : machine.ip + 5 < memorySize) (within : target < memorySize)
    (data : machine.data.depth < machine.data.capacity) (host : Host σ) :
    ∃ after, Machine.Retires [.push, .jmp] machine host
      { machine with ip := target, steps := machine.steps + 2 } after := by
  let middle := machine.pushed (Int32.ofNat target)
  have goes : middle.status = .running := running
  have top : middle.operand 0 = .ok (Int32.ofNat target) := Machine.operand_pushed data _
  obtain ⟨between, pushed, silent⟩ := Machine.step_push running first data inside host
  obtain ⟨after, jumped, still⟩ := Machine.step_jmp goes second top within between
  have restored : middle.data.pop = machine.data := Stack.pop_push data _
  rw [restored] at jumped
  exact ⟨after, .next pushed silent (.next jumped still (.none _ _))⟩

end Instructions

/-! ## A call -/

/-- The machine that has entered a routine from a call. -/
def Machine.callee (machine : Machine) (site target : Nat) : Machine :=
  { machine with
    returns := machine.returns.push (site + 12), ip := target, steps := machine.steps + 4 }

/-- A machine that is about to call a routine of a program, and has room for it. -/
structure Machine.AtCall (machine : Machine) (assembly : Assembly) (name : String)
    (site target : Nat) : Prop where
  calls : assembly.Calls name site target
  /-- The label is not at the very end of memory. -/
  inside : target < memorySize
  running : machine.status = .running
  ip : machine.ip = site
  /-- The call is in memory as it was assembled. -/
  loaded : ∀ i, site ≤ i → i < site + 12 → machine.memory.bytes[i]? = assembly.image.bytes[i]?
  data : machine.data.depth < machine.data.capacity
  returns : machine.returns.depth < machine.returns.capacity

/-- What is read where a call stands. -/
theorem decode_call {bytes : Bytes} {site target : Nat} {rest : List UInt8}
    (written : bytes.toList.drop site =
      (callInstructions site target).flatMap Instruction.encoding ++ rest) :
    Instruction.decode bytes site = .ok ⟨.push, some (Int32.ofNat (site + 12))⟩ ∧
      Instruction.decode bytes (site + 5) = .ok ⟨.pushIp, none⟩ ∧
      Instruction.decode bytes (site + 6) = .ok ⟨.push, some (Int32.ofNat target)⟩ ∧
      Instruction.decode bytes (site + 11) = .ok ⟨.jmp, none⟩ ∧ site + 12 ≤ bytes.size := by
  simp only [callInstructions, List.flatMap_cons, List.append_assoc] at written
  have push (word : Word) := Instruction.wellFormed_push word
  have pushIp : Instruction.WellFormed ⟨.pushIp, none⟩ := Instruction.wellFormed_plain nofun
  have jmp : Instruction.WellFormed ⟨.jmp, none⟩ := Instruction.wellFormed_plain nofun
  have second := (push _).drop_add_size written
  have third := pushIp.drop_add_size second
  have fourth := (push _).drop_add_size third
  refine ⟨(push _).decode_eq written, pushIp.decode_eq second, (push _).decode_eq third,
    jmp.decode_eq fourth, ?_⟩
  exact Instruction.add_size_le_of_decode (jmp.decode_eq fourth)

/-- Four steps enter the routine. -/
theorem Machine.AtCall.retires {source : String} {assembly : Assembly}
    (assembled : assemble source = .ok assembly) {machine : Machine} {name : String}
    {site target : Nat} (atCall : machine.AtCall assembly name site target) (host : Host σ) :
    ∃ after, Machine.Retires [.push, .pushIp, .push, .jmp] machine host
      (machine.callee site target) after := by
  obtain ⟨calls, within, running, rfl, loaded, data, returns⟩ := atCall
  obtain ⟨_, spelled⟩ := calls.drop_eq assembled
  obtain ⟨_, written⟩ := Bytes.drop_eq_of_agree spelled loaded
  obtain ⟨first, second, third, fourth, fits⟩ := decode_call written
  rw [machine.memory.size_bytes] at fits
  obtain ⟨between, entered⟩ := Machine.retires_pushIp running first second fits (by omega) data
    returns host
  let middle : Machine :=
    { machine with
      returns := machine.returns.push (machine.ip + 12), ip := machine.ip + 6,
      steps := machine.steps + 2 }
  have goes : middle.status = .running := running
  have before : middle.ip + 5 < memorySize := Nat.lt_of_succ_le fits
  obtain ⟨after, jumped⟩ := Machine.retires_jmp goes third fourth before within data between
  exact ⟨after, entered.append jumped⟩

/-! ## A return -/

/-- A machine that is about to return from a routine. -/
structure Machine.AtReturn (machine : Machine) : Prop where
  running : machine.status = .running
  decoded : Instruction.decode machine.memory.bytes machine.ip = .ok ⟨.popIp, none⟩

/-- The machine that has returned to an address from the instruction stack. -/
def Machine.returned (machine : Machine) (address : Nat) : Machine :=
  { machine with returns := machine.returns.pop, ip := address, steps := machine.steps + 1 }

/-- One step retires `POPIP` and returns to the address, without touching the console. -/
def Machine.ReturnsTo (machine : Machine) (address : Nat) : Prop :=
  ∀ {σ : Type} [Console σ] (host : Host σ), ∃ after,
    machine.step host = (.retired .popIp, machine.returned address, after) ∧
      after.console = host.console

/-- `POPIP` returns to the address on top of the instruction stack, if it lies in memory. -/
theorem Machine.AtReturn.returnsTo {machine : Machine} (atReturn : machine.AtReturn)
    {address : Nat} {below : List Nat} (held : machine.returns.topFirst = address :: below)
    (inside : address < memorySize) : machine.ReturnsTo address := by
  intro σ _ host
  have top : machine.returns.top? = some address := by
    rw [Stack.top?_eq_topFirst, held]
    rfl
  exact Machine.Plans.step_eq (.popIp top (codeAddress_of_lt inside)) atReturn.running
    atReturn.decoded rfl inside host

/-! ## Calls within calls -/

/-- The machines that come from `outer` by steps, with the calls that have been entered and not
left, innermost first. -/
inductive Machine.Pending (assembly : Assembly) (outer : Machine) : List Nat → Machine → Prop
  | none : Pending assembly outer [] outer
  /-- Any number of steps that leave the instruction stack as they found it. -/
  | goes {σ : Type} [Console σ] {sites : List Nat} {machine : Machine} (host : Host σ) (count : Nat)
    (before : Pending assembly outer sites machine)
    (kept : (Machine.tick^[count] (machine, host)).1.returns = machine.returns) :
    Pending assembly outer sites (Machine.tick^[count] (machine, host)).1
  /-- A call that enters its routine. -/
  | call {σ : Type} [Console σ] {sites : List Nat} {machine : Machine} {name : String}
    {site target : Nat} (host : Host σ) (before : Pending assembly outer sites machine)
    (atCall : machine.AtCall assembly name site target) :
    Pending assembly outer (site :: sites) (Machine.tick^[4] (machine, host)).1
  /-- A return from the innermost call, if there is an address after it. -/
  | leave {σ : Type} [Console σ] {sites : List Nat} {machine : Machine} {site : Nat}
    (host : Host σ) (before : Pending assembly outer (site :: sites) machine)
    (atReturn : machine.AtReturn) (inside : site + 12 < memorySize) :
    Pending assembly outer sites (machine.step host).2.1

section Calls

variable {source : String} {assembly : Assembly} {machine outer : Machine} {name : String}
  {site target : Nat} {sites : List Nat}

theorem Machine.AtCall.topFirst_callee (atCall : machine.AtCall assembly name site target) :
    (machine.callee site target).returns.topFirst = (site + 12) :: machine.returns.topFirst :=
  Stack.topFirst_push (by rw [Stack.length_topFirst]; exact atCall.returns) _

theorem Machine.AtCall.tick_eq (assembled : assemble source = .ok assembly)
    (atCall : machine.AtCall assembly name site target) (host : Host σ) :
    (Machine.tick^[4] (machine, host)).1 = machine.callee site target := by
  obtain ⟨after, retires⟩ := atCall.retires assembled host
  exact congrArg Prod.fst retires.iterate_tick

/-- The instruction stack holds the addresses after the calls that have not been left. -/
theorem Machine.Pending.topFirst_returns (assembled : assemble source = .ok assembly)
    (pending : Machine.Pending assembly outer sites machine) :
    machine.returns.topFirst = sites.map (· + 12) ++ outer.returns.topFirst := by
  -- on the way the machine was taken: only calls and returns move the instruction stack
  induction pending with
  | none => rfl
  | goes host count before kept ih => rw [kept, ih]
  | call host before atCall ih =>
      rw [atCall.tick_eq assembled, atCall.topFirst_callee, ih]
      rfl
  | leave host before atReturn inside ih =>
      obtain ⟨after, stepped, _⟩ := atReturn.returnsTo ih inside host
      rw [stepped, Machine.returned, Stack.topFirst_pop, ih]
      rfl

/-- Calls of a program within calls: the instruction stack holds the addresses after them, innermost
first, and they are left in that order. -/
def Assembly.Nests (assembly : Assembly) : Prop :=
  ∀ outer sites later, Machine.Pending assembly outer sites later →
    later.returns.topFirst = sites.map (· + 12) ++ outer.returns.topFirst ∧
    ∀ site rest, sites = site :: rest → later.AtReturn → site + 12 < memorySize →
      later.ReturnsTo (site + 12) ∧
        (later.returned (site + 12)).returns.topFirst =
          rest.map (· + 12) ++ outer.returns.topFirst

/-- What assembles nests its calls. -/
theorem Assembly.nests (assembled : assemble source = .ok assembly) : assembly.Nests := by
  intro outer sites later pending
  have held := pending.topFirst_returns assembled
  refine ⟨held, ?_⟩
  rintro site rest rfl atReturn inside
  refine ⟨atReturn.returnsTo held inside, ?_⟩
  rw [Machine.returned, Stack.topFirst_pop, held]
  rfl

/-- A call of a label enters its routine in four steps, and `POPIP` returns behind the call; calls
within calls return in the reverse order. -/
theorem Machine.call_returns (assembled : assemble source = .ok assembly)
    (atCall : machine.AtCall assembly name site target) :
    (∀ {σ : Type} [Console σ] (host : Host σ), ∃ after,
      Machine.Retires [.push, .pushIp, .push, .jmp] machine host (machine.callee site target)
        after ∧ after.console = host.console) ∧
    (machine.callee site target).returns.topFirst = (site + 12) :: machine.returns.topFirst ∧
    (∀ later : Machine, later.AtReturn → later.returns = (machine.callee site target).returns →
      site + 12 < memorySize →
        later.ReturnsTo (site + 12) ∧ (later.returned (site + 12)).returns = machine.returns) ∧
    assembly.Nests := by
  refine ⟨fun host => ?_, atCall.topFirst_callee, fun later atReturn same inside => ?_,
    Assembly.nests assembled⟩
  · obtain ⟨after, retires⟩ := atCall.retires assembled host
    exact ⟨after, retires, retires.console_eq⟩
  · have held := atCall.topFirst_callee
    rw [← same] at held
    have restored : later.returns.pop = machine.returns := by
      rw [same]
      exact Stack.pop_push atCall.returns _
    exact ⟨atReturn.returnsTo held inside, restored⟩

/-- The only call of a program that has just been loaded. -/
theorem Machine.call_returns_first :
    ∃ assembly, assemble "CALL f HALT f: POPIP" = .ok assembly ∧
      (Machine.load assembly.image {}).AtCall assembly "f" 0 13 ∧
      (∀ later : Machine, later.AtReturn →
        later.returns = ((Machine.load assembly.image {}).callee 0 13).returns →
          later.ReturnsTo 12 ∧ (later.returned 12).returns = .empty defaultStackCapacity) ∧
      assembly.Nests := by
  have made : (assemble "CALL f HALT f: POPIP").toOption.map
      (fun assembly => (assembly.listing[0]?.map fun entry => (entry.address, entry.text),
        assembly.symbols, assembly.image.bytes.size)) =
      some (some (0, "CALL f"), [("f", 13)], 14) := by
    decide +kernel
  rcases assembled : assemble "CALL f HALT f: POPIP" with _ | assembly
  · rw [assembled] at made
    cases made
  · rw [assembled, Except.toOption, Option.map_some, Option.some.injEq, Prod.mk.injEq,
      Prod.mk.injEq] at made
    obtain ⟨first, symbols, size⟩ := made
    obtain ⟨entry, found, shown⟩ := Option.map_eq_some_iff.1 first
    rw [Prod.mk.injEq] at shown
    have calls : assembly.Calls "f" 0 13 :=
      { listed := ⟨entry, Array.mem_of_getElem? found, shown.1, shown.2.trans (by decide)⟩
        label := by decide
        declared := by
          rw [symbols]
          exact List.mem_singleton_self _ }
    have atCall : (Machine.load assembly.image {}).AtCall assembly "f" 0 13 :=
      { calls
        inside := by decide
        running := rfl
        ip := rfl
        loaded := fun i _ below =>
          Memory.getElem?_ofBytes (by omega) (Nat.lt_trans below (by decide))
        data := show 0 < defaultStackCapacity by decide
        returns := show 0 < defaultStackCapacity by decide }
    have returns := Machine.call_returns assembled atCall
    exact ⟨assembly, rfl, atCall,
      fun later atReturn same => returns.2.2.1 later atReturn same (by decide), returns.2.2.2⟩

end Calls

end TwoStack
