import Mathlib.Algebra.Order.Ring.Int
import TwoStack.Json.Form

/-!
# Forms of values in JSON

What the JSON of a value can look like: the members of a record stand in their order, a case is its
name or an object with one member of that name, and further members may stand in any record that is
written with names (`Json.WithUnknown`).  So a value has many forms; it is written as the one
without unknown members (`form_fault` and its like), every form is read back as the value if the
numbers in it have the sizes that they are read with (`ofJson?_fault` and its like), and no form
belongs to two values (`Fault.Form.unique` and its like).  For the latter the sizes do not matter.
-/

namespace TwoStack

/-! ## Records -/

namespace Json

/-- Members and further ones among them, under names that are not known. -/
inductive WithUnknown (known : List String) :
    List (Option String × Json) → List (Option String × Json) → Prop
  | none : WithUnknown known [] []
  | keep {members more : List (Option String × Json)} (member : Option String × Json)
    (others : WithUnknown known members more) :
    WithUnknown known (member :: members) (member :: more)
  | add {members more : List (Option String × Json)} {name : String} (unknown : name ∉ known)
    (value : Json) (others : WithUnknown known members more) :
    WithUnknown known members ((some name, value) :: more)

/-- An object with the given fields in their order, and perhaps with unknown ones. -/
def IsRecord (fields : List (String × Json)) (json : Json) : Prop :=
  ∃ members, json = object members ∧
    WithUnknown (fields.map Prod.fst) (fields.map fun field => (some field.1, field.2)) members

variable {known : List String} {members more : List (Option String × Json)}
  {fields : List (String × Json)} {json : Json}

theorem WithUnknown.refl (known : List String) (members : List (Option String × Json)) :
    WithUnknown known members members := by
  induction members with
  | nil => exact .none
  | cons member members ih => exact .keep member ih

theorem isRecord_record (fields : List (String × Json)) : IsRecord fields (record fields) :=
  ⟨_, rfl, .refl _ _⟩

/-- Unknown members are not looked at. -/
theorem WithUnknown.membersNamed_eq (widened : WithUnknown known members more) {name : String}
    (listed : name ∈ known) : membersNamed name more = membersNamed name members := by
  induction widened with
  | none => rfl
  | keep member others ih =>
      obtain ⟨other, value⟩ := member
      simp only [membersNamed, List.filterMap_cons] at ih ⊢
      rw [ih]
  | @add members more other unknown value others ih =>
      have apart : some other ≠ some name := by
        rintro ⟨⟩
        exact unknown listed
      simp only [membersNamed, List.filterMap_cons, if_neg apart] at ih ⊢
      exact ih

theorem WithUnknown.all_isSome (widened : WithUnknown known members more)
    (named : ∀ member ∈ members, member.1.isSome = true) :
    ∀ member ∈ more, member.1.isSome = true := by
  induction widened with
  | none => exact named
  | keep member others ih =>
      rw [List.forall_mem_cons] at named ⊢
      exact ⟨named.1, ih named.2⟩
  | add unknown value others ih => exact List.forall_mem_cons.2 ⟨rfl, ih named⟩

theorem membersNamed_cons (name : String) (field : String × Json) (fields : List (String × Json)) :
    membersNamed name ((field :: fields).map fun field => (some field.1, field.2)) =
      if field.1 = name then
        field.2 :: membersNamed name (fields.map fun field => (some field.1, field.2))
      else membersNamed name (fields.map fun field => (some field.1, field.2)) := by
  simp only [membersNamed, List.map_cons, List.filterMap_cons, Option.some.injEq]
  split <;> simp_all

theorem membersNamed_of_not_mem {name : String} (missing : name ∉ fields.map Prod.fst) :
    membersNamed name (fields.map fun field => (some field.1, field.2)) = [] := by
  induction fields with
  | nil => rfl
  | cons field fields ih =>
      rw [List.map_cons, List.mem_cons, not_or] at missing
      rw [membersNamed_cons, if_neg (Ne.symm missing.1), ih missing.2]

/-- A field that is not repeated is found once. -/
theorem membersNamed_of_nodup (distinct : (fields.map Prod.fst).Nodup) {field : String × Json}
    (listed : field ∈ fields) :
    membersNamed field.1 (fields.map fun field => (some field.1, field.2)) = [field.2] := by
  induction fields with
  | nil => cases listed
  | cons first fields ih =>
      rw [List.map_cons, List.nodup_cons] at distinct
      rw [membersNamed_cons]
      rcases List.mem_cons.1 listed with rfl | listed
      · rw [if_pos rfl, membersNamed_of_not_mem distinct.1]
      · have apart : first.1 ≠ field.1 := fun same =>
          distinct.1 (same ▸ List.mem_map_of_mem listed)
        rw [if_neg apart, ih distinct.2 listed]

/-- The fields of a record are found, whatever else is there. -/
theorem IsRecord.fields?_eq (isRecord : IsRecord fields json) (names : List String)
    (named : fields.map Prod.fst = names) (distinct : names.Nodup) :
    json.fields? names = some (fields.map fun field => some field.2) := by
  subst named
  obtain ⟨members, rfl, widened⟩ := isRecord
  have named : members.all (fun member => member.1.isSome) = true := by
    refine List.all_eq_true.2 (widened.all_isSome fun member listed => ?_)
    obtain ⟨field, _, rfl⟩ := List.mem_map.1 listed
    rfl
  have found : (fields.map Prod.fst).map (fun name => membersNamed name members) =
      fields.map fun field => [field.2] := by
    rw [List.map_map]
    apply List.map_congr_left
    intro field listed
    exact (widened.membersNamed_eq (List.mem_map_of_mem listed)).trans
      (membersNamed_of_nodup distinct listed)
  have once : (fields.map fun field => [field.2]).all (fun values => values.length ≤ 1) = true := by
    rw [List.all_map]
    exact List.all_eq_true.2 fun _ _ => rfl
  rw [fields?]
  simp only [found, named, once, Bool.and_self, if_true, List.map_map]
  rfl

/-- Records of the same fields that share a form have the same values. -/
theorem IsRecord.values_eq {others : List (String × Json)} (first : IsRecord fields json)
    (second : IsRecord others json)
    (named : others.map Prod.fst = fields.map Prod.fst) (distinct : (fields.map Prod.fst).Nodup) :
    fields.map Prod.snd = others.map Prod.snd := by
  have found := (first.fields?_eq _ rfl distinct).symm.trans (second.fields?_eq _ named distinct)
  refine (List.map_inj_right fun _ _ => Option.some.inj).1 ?_
  rw [List.map_map, List.map_map]
  exact Option.some.inj found

end Json

/-! ## Forms -/

/-- A number of 64 bits without a sign. -/
def IsU64 (n : Nat) : Prop := n < 2 ^ 64

instance (n : Nat) : Decidable (IsU64 n) := inferInstanceAs (Decidable (n < 2 ^ 64))

/-- The form of a value that may be absent. -/
def optionalForm {α : Type} (form : α → Json) : Option α → Json
  | some value => form value
  | none => .null

namespace Opcode

/-- The names of the instructions, in the order of their bytes. -/
def variantNames : List String :=
  ["Nop", "Add", "Sub", "Neg", "Shl", "Shr", "And", "Or", "Xor", "Not", "Jmp", "Jz", "Jnz", "Push",
    "Rm", "PushIp", "PopIp", "RmIp", "PushPm", "PopPm", "Input", "Peek", "Halt"]

/-- The form of an instruction: its name. -/
def Form (opcode : Opcode) (json : Json) : Prop :=
  ∃ name, variantNames[opcode.toByte.toNat]? = some name ∧ json = .text name

end Opcode

/-- The form of a class of faults: its name. -/
inductive FaultClass.Form : FaultClass → Json → Prop
  | stack : Form .stack (.text "Stack")
  | memory : Form .memory (.text "Memory")
  | decode : Form .decode (.text "Decode")
  | console : Form .console (.text "Console")

namespace FaultCode

/-- An address in a fault code has 64 bits with its sign. -/
def Fits : FaultCode → Prop
  | addressOutOfBounds address => -2 ^ 63 ≤ address ∧ address < 2 ^ 63
  | _ => True

/-- The forms of a fault code: its name, with what comes with it. -/
inductive Form : FaultCode → Json → Prop
  | dataStackUnderflow : Form .dataStackUnderflow (.text "DataStackUnderflow")
  | instructionStackUnderflow :
    Form .instructionStackUnderflow (.text "InstructionStackUnderflow")
  | stackOverflow : Form .stackOverflow (.text "StackOverflow")
  | addressOutOfBounds {address : Int} {json : Json}
    (inner : json.IsRecord [("address", .integer address)]) :
    Form (.addressOutOfBounds address) (.record [("AddressOutOfBounds", json)])
  | unknownOpcode {byte : UInt8} :
    Form (.unknownOpcode byte) (.record [("UnknownOpcode", .integer byte.toNat)])
  | truncatedOperand : Form .truncatedOperand (.text "TruncatedOperand")
  | malformedInput : Form .malformedInput (.text "MalformedInput")
  | outputFailed : Form .outputFailed (.text "OutputFailed")

end FaultCode

namespace RunState

def Fits : RunState → Prop
  | faultLatched code => code.Fits
  | _ => True

/-- The forms of a run state: its name, with the fault code. -/
inductive Form : RunState → Json → Prop
  | running : Form .running (.text "Running")
  | halted : Form .halted (.text "Halted")
  | endOfMemory : Form .endOfMemory (.text "EndOfMemory")
  | faultLatched {code : FaultCode} {json : Json} (inner : code.Form json) :
    Form (.faultLatched code) (.record [("FaultLatched", json)])

end RunState

namespace Snapshot

structure Fits (snapshot : Snapshot) : Prop where
  ip : IsU64 snapshot.ip
  returnStack : ∀ address ∈ snapshot.returnStack, IsU64 address
  steps : IsU64 snapshot.steps

/-- The forms of a snapshot. -/
def Form (snapshot : Snapshot) : Json → Prop :=
  Json.IsRecord
    [("ip", .integer snapshot.ip),
      ("data_stack", .array (snapshot.dataStack.toList.map fun word => .integer word.toInt)),
      ("instruction_stack",
        .array (snapshot.returnStack.toList.map fun address : Nat => .integer address)),
      ("steps", .integer snapshot.steps)]

end Snapshot

namespace Fault

structure Fits (fault : Fault) : Prop where
  code : fault.code.Fits
  address : IsU64 fault.address
  snapshot : fault.snapshot.Fits

/-- The forms of a fault; there may be unknown members in its snapshot and in its code too. -/
def Form (fault : Fault) (json : Json) : Prop :=
  ∃ code snapshot, fault.code.Form code ∧ fault.snapshot.Form snapshot ∧
    json.IsRecord
      [("code", code), ("address", .integer fault.address), ("snapshot", snapshot)]

end Fault

namespace Config

structure Fits (config : Config) : Prop where
  maxSteps : ∀ limit ∈ config.maxSteps, IsU64 limit
  dataCapacity : IsU64 config.dataCapacity
  returnCapacity : IsU64 config.returnCapacity

/-- The forms of the limits of a machine. -/
def Form (config : Config) : Json → Prop :=
  Json.IsRecord
    [("max_steps", optionalForm (fun limit : Nat => .integer limit) config.maxSteps),
      ("data_stack_capacity", .integer config.dataCapacity),
      ("instruction_stack_capacity", .integer config.returnCapacity)]

end Config

namespace Row

def Fits (row : Row) : Prop := IsU64 row.address

/-- The forms of a row of a disassembly. -/
def Form (row : Row) (json : Json) : Prop :=
  ∃ opcode, row.instruction.opcode.Form opcode ∧
    json.IsRecord
      [("addr", .integer row.address), ("opcode", opcode),
        ("operand", optionalForm (fun word : Word => .integer word.toInt) row.instruction.operand)]

end Row

/-! ## Reading -/

namespace JsonForm

theorem ofJson?_natural {n : Nat} (fits : n < 2 ^ 64) :
    (ofJson? (.integer n) : Option Nat) = some n := by
  have inside : Json.integerIn? 0 18446744073709551615 (.integer n) = some (n : Int) :=
    if_pos (by omega)
  exact (congrArg (Option.map Int.toNat) inside).trans rfl

theorem ofJson?_integer {value : Int} (fits : -2 ^ 63 ≤ value ∧ value < 2 ^ 63) :
    (ofJson? (.integer value) : Option Int) = some value :=
  if_pos (by omega)

theorem ofJson?_word (word : Word) : (ofJson? (.integer word.toInt) : Option Word) = some word := by
  have least := Int32.le_toInt word
  have most := Int32.toInt_lt word
  have inside : Json.integerIn? (-2147483648) 2147483647 (.integer word.toInt) =
      some word.toInt := if_pos (by omega)
  exact (congrArg (Option.map Int32.ofInt) inside).trans (congrArg some (Int32.ofInt_toInt word))

theorem ofJson?_byte (byte : UInt8) :
    (ofJson? (.integer byte.toNat) : Option UInt8) = some byte := by
  have most := byte.toNat_lt
  have inside : Json.integerIn? 0 255 (.integer byte.toNat) = some (byte.toNat : Int) :=
    if_pos (by omega)
  refine (congrArg (Option.map fun value : Int => UInt8.ofNat value.toNat) inside).trans ?_
  exact congrArg some (UInt8.ofNat_toNat)

/-- An array is read item by item. -/
theorem ofJson?_array {α : Type} [JsonForm α] {form : α → Json} {values : Array α}
    (read : ∀ value ∈ values, ofJson? (form value) = some value) :
    (ofJson? (.array (values.toList.map form)) : Option (Array α)) = some values := by
  have items (values : List α) (read : ∀ value ∈ values, ofJson? (form value) = some value) :
      (values.map form).mapM ofJson? = some values := by
    induction values with
    | nil => rfl
    | cons value values ih =>
        rw [List.forall_mem_cons] at read
        rw [List.map_cons, List.mapM_cons, read.1, ih read.2]
        rfl
  have listed := items values.toList fun value listed => read value (Array.mem_toList_iff.1 listed)
  exact congrArg (Option.map List.toArray) listed

/-- A value that may be absent is read if it is one thing or the other. -/
theorem ofJson?_optional {α : Type} [JsonForm α] (form : α → Json) {value : Option α}
    (apart : ∀ value, form value ≠ .null)
    (read : ∀ present ∈ value, ofJson? (form present) = some present) :
    (ofJson? (optionalForm form value) : Option (Option α)) = some value := by
  cases value with
  | none => rfl
  | some present =>
      have opened {json : Json} (there : json ≠ .null) :
          (ofJson? json : Option (Option α)) = (ofJson? json).map some := by
        cases json with
        | null => exact absurd rfl there
        | _ => rfl
      rw [optionalForm, opened (apart present), read present rfl, Option.map_some]

theorem ofJson?_opcode {opcode : Opcode} {json : Json} (form : opcode.Form json) :
    ofJson? json = some opcode := by
  obtain ⟨name, listed, rfl⟩ := form
  cases opcode with
  | binary op => cases op <;> cases listed <;> rfl
  | unary op => cases op <;> cases listed <;> rfl
  | _ =>
      cases listed
      rfl

theorem ofJson?_faultClass {faultClass : FaultClass} {json : Json} (form : faultClass.Form json) :
    ofJson? json = some faultClass := by
  cases form with
  | stack => rfl
  | memory => rfl
  | decode => rfl
  | console => rfl

theorem ofJson?_faultCode {code : FaultCode} {json : Json} (fits : code.Fits)
    (form : code.Form json) : ofJson? json = some code := by
  cases form with
  | @addressOutOfBounds address json inner =>
      have fields := inner.fields?_eq ["address"] rfl (by decide)
      simp only [ofJson?, Json.record, List.map_cons, List.map_nil, Json.case?, Option.bind_eq_bind,
        Option.bind_some, fields]
      simp only [field?, ofJson?_integer fits, Option.bind_some]
      rfl
  | @unknownOpcode byte =>
      exact congrArg (fun read : Option UInt8 => read.bind fun byte =>
        some (FaultCode.unknownOpcode byte)) (ofJson?_byte byte)
  | _ => rfl

theorem ofJson?_runState {state : RunState} {json : Json} (fits : state.Fits)
    (form : state.Form json) : ofJson? json = some state := by
  cases form with
  | @faultLatched code json inner =>
      exact congrArg (fun read : Option FaultCode => read.bind fun code =>
        some (RunState.faultLatched code)) (ofJson?_faultCode fits inner)
  | _ => rfl

theorem ofJson?_snapshot {snapshot : Snapshot} {json : Json} (fits : snapshot.Fits)
    (form : snapshot.Form json) : ofJson? json = some snapshot := by
  have fields := form.fields?_eq ["ip", "data_stack", "instruction_stack", "steps"] rfl (by decide)
  simp only [ofJson?]
  rw [fields]
  simp only [List.map_cons, List.map_nil, Option.bind_eq_bind, Option.bind_some, field?,
    ofJson?_natural fits.ip, ofJson?_array fun word _ => ofJson?_word word,
    ofJson?_array fun address listed => ofJson?_natural (fits.returnStack address listed),
    ofJson?_natural fits.steps]
  rfl

theorem ofJson?_fault {fault : Fault} {json : Json} (fits : fault.Fits)
    (form : fault.Form json) : ofJson? json = some fault := by
  obtain ⟨code, snapshot, coded, snapped, record⟩ := form
  have fields := record.fields?_eq ["code", "address", "snapshot"] rfl (by decide)
  simp only [ofJson?]
  rw [fields]
  simp only [List.map_cons, List.map_nil, Option.bind_eq_bind, Option.bind_some, field?,
    ofJson?_faultCode fits.code coded, ofJson?_natural fits.address,
    ofJson?_snapshot fits.snapshot snapped]
  rfl

theorem ofJson?_config {config : Config} {json : Json} (fits : config.Fits)
    (form : config.Form json) : ofJson? json = some config := by
  have fields := form.fields?_eq
    ["max_steps", "data_stack_capacity", "instruction_stack_capacity"] rfl (by decide)
  have limit := ofJson?_optional (fun limit : Nat => .integer limit) (fun _ => nofun)
    fun limit listed => ofJson?_natural (fits.maxSteps limit listed)
  simp only [ofJson?]
  rw [fields]
  simp only [List.map_cons, List.map_nil, Option.bind_eq_bind, Option.bind_some, field?,
    optionalField?, limit, ofJson?_natural fits.dataCapacity,
    ofJson?_natural fits.returnCapacity]
  rfl

theorem ofJson?_row {row : Row} {json : Json} (fits : row.Fits) (form : row.Form json) :
    ofJson? json = some row := by
  obtain ⟨opcode, named, record⟩ := form
  have fields := record.fields?_eq ["addr", "opcode", "operand"] rfl (by decide)
  have operand := ofJson?_optional (fun word : Word => .integer word.toInt) (fun _ => nofun)
    fun word (_ : word ∈ row.instruction.operand) => ofJson?_word word
  simp only [ofJson?]
  rw [fields]
  simp only [List.map_cons, List.map_nil, Option.bind_eq_bind, Option.bind_some, field?,
    optionalField?, operand, ofJson?_natural fits, ofJson?_opcode named]
  rfl

/-! ## Writing -/

theorem form_opcode (opcode : Opcode) : opcode.Form (toJson opcode) := by
  refine ⟨opcodeName opcode, ?_, rfl⟩
  cases opcode with
  | binary op => cases op <;> rfl
  | unary op => cases op <;> rfl
  | _ => rfl

theorem form_faultClass (faultClass : FaultClass) : faultClass.Form (toJson faultClass) := by
  cases faultClass with
  | stack => exact .stack
  | memory => exact .memory
  | decode => exact .decode
  | console => exact .console

theorem form_faultCode (code : FaultCode) : code.Form (toJson code) := by
  cases code with
  | dataStackUnderflow => exact .dataStackUnderflow
  | instructionStackUnderflow => exact .instructionStackUnderflow
  | stackOverflow => exact .stackOverflow
  | addressOutOfBounds address => exact .addressOutOfBounds (Json.isRecord_record _)
  | unknownOpcode byte => exact .unknownOpcode
  | truncatedOperand => exact .truncatedOperand
  | malformedInput => exact .malformedInput
  | outputFailed => exact .outputFailed

theorem form_runState (state : RunState) : state.Form (toJson state) := by
  cases state with
  | running => exact .running
  | halted => exact .halted
  | endOfMemory => exact .endOfMemory
  | faultLatched code => exact .faultLatched (form_faultCode code)

theorem form_snapshot (snapshot : Snapshot) : snapshot.Form (toJson snapshot) :=
  Json.isRecord_record _

theorem form_fault (fault : Fault) : fault.Form (toJson fault) :=
  ⟨_, _, form_faultCode fault.code, form_snapshot fault.snapshot, Json.isRecord_record _⟩

theorem toJson_optional {α : Type} [JsonForm α] (value : Option α) :
    toJson value = optionalForm toJson value := by
  cases value with
  | none => rfl
  | some value => rfl

theorem form_config (config : Config) : config.Form (toJson config) := by
  have written : toJson config = .record [("max_steps", toJson config.maxSteps),
    ("data_stack_capacity", toJson config.dataCapacity),
    ("instruction_stack_capacity", toJson config.returnCapacity)] := rfl
  rw [written, toJson_optional]
  exact Json.isRecord_record _

theorem form_row (row : Row) : row.Form (toJson row) := by
  have written : toJson row = .record [("addr", toJson row.address),
    ("opcode", toJson row.instruction.opcode), ("operand", toJson row.instruction.operand)] := rfl
  rw [written, toJson_optional]
  exact ⟨_, form_opcode _, Json.isRecord_record _⟩

/-! ## Different values -/

end JsonForm

theorem integer_word_injective : Function.Injective fun word : Word => Json.integer word.toInt :=
  fun _ _ same => Int32.toInt_inj.1 (Json.integer.inj same)

theorem integer_natural_injective : Function.Injective fun n : Nat => Json.integer n :=
  fun _ _ same => Int.ofNat.inj (Json.integer.inj same)

theorem optionalForm_injective {α : Type} {form : α → Json} (injective : Function.Injective form)
    (apart : ∀ value, form value ≠ .null) : Function.Injective (optionalForm form) := by
  rintro (_ | value) (_ | other) same
  · rfl
  · exact absurd same.symm (apart other)
  · exact absurd same (apart value)
  · rw [injective same]

theorem Opcode.Form.unique {opcode other : Opcode} {json : Json} (first : opcode.Form json)
    (second : other.Form json) : opcode = other :=
  Option.some.inj ((JsonForm.ofJson?_opcode first).symm.trans (JsonForm.ofJson?_opcode second))

theorem FaultClass.Form.unique {faultClass other : FaultClass} {json : Json}
    (first : faultClass.Form json) (second : other.Form json) : faultClass = other :=
  Option.some.inj
    ((JsonForm.ofJson?_faultClass first).symm.trans (JsonForm.ofJson?_faultClass second))

namespace FaultCode

variable {code other : FaultCode} {json : Json}

theorem exists_address_of_not_fits (beyond : ¬code.Fits) :
    ∃ address, code = addressOutOfBounds address := by
  cases code with
  | addressOutOfBounds address => exact ⟨address, rfl⟩
  | _ => exact absurd trivial beyond

theorem Form.of_address (form : code.Form (.record [("AddressOutOfBounds", json)])) :
    ∃ address : Int, code = .addressOutOfBounds address ∧
      json.IsRecord [("address", .integer address)] := by
  generalize shown : Json.record [("AddressOutOfBounds", json)] = whole at form
  cases form with
  | @addressOutOfBounds address inside inner =>
      simp only [Json.record, List.map_cons, List.map_nil, Json.object.injEq, List.cons.injEq,
        Prod.mk.injEq, true_and, and_true] at shown
      exact ⟨address, rfl, shown ▸ inner⟩
  | unknownOpcode => simp [Json.record] at shown
  | _ => cases shown

theorem Form.eq_of_address {address : Int} (first : Form (.addressOutOfBounds address) json)
    (second : other.Form json) : other = .addressOutOfBounds address := by
  cases first with
  | addressOutOfBounds inner =>
      obtain ⟨address', rfl, inner'⟩ := second.of_address
      have same := inner'.values_eq inner rfl (by simp)
      simp only [List.map_cons, List.map_nil, List.cons.injEq, Json.integer.injEq, and_true] at same
      rw [same]

theorem Form.unique (first : code.Form json) (second : other.Form json) : code = other := by
  -- an address beyond the limits has a form too, but is not read back
  by_cases fits : code.Fits
  · by_cases fits' : other.Fits
    · exact Option.some.inj ((JsonForm.ofJson?_faultCode fits first).symm.trans
        (JsonForm.ofJson?_faultCode fits' second))
    · obtain ⟨address, rfl⟩ := exists_address_of_not_fits fits'
      exact second.eq_of_address first
  · obtain ⟨address, rfl⟩ := exists_address_of_not_fits fits
    exact (first.eq_of_address second).symm

end FaultCode

namespace RunState

variable {state other : RunState} {json : Json}

theorem exists_latched_of_not_fits (beyond : ¬state.Fits) : ∃ code, state = faultLatched code := by
  cases state with
  | faultLatched code => exact ⟨code, rfl⟩
  | _ => exact absurd trivial beyond

theorem Form.of_latched (form : state.Form (.record [("FaultLatched", json)])) :
    ∃ code : FaultCode, state = .faultLatched code ∧ code.Form json := by
  generalize shown : Json.record [("FaultLatched", json)] = whole at form
  cases form with
  | @faultLatched code inside inner =>
      simp only [Json.record, List.map_cons, List.map_nil, Json.object.injEq, List.cons.injEq,
        Prod.mk.injEq, true_and, and_true] at shown
      exact ⟨code, rfl, shown ▸ inner⟩
  | _ => cases shown

theorem Form.eq_of_latched {code : FaultCode} (first : Form (.faultLatched code) json)
    (second : other.Form json) : other = .faultLatched code := by
  cases first with
  | faultLatched inner =>
      obtain ⟨code', rfl, inner'⟩ := second.of_latched
      rw [inner'.unique inner]

theorem Form.unique (first : state.Form json) (second : other.Form json) : state = other := by
  by_cases fits : state.Fits
  · by_cases fits' : other.Fits
    · exact Option.some.inj ((JsonForm.ofJson?_runState fits first).symm.trans
        (JsonForm.ofJson?_runState fits' second))
    · obtain ⟨code, rfl⟩ := exists_latched_of_not_fits fits'
      exact second.eq_of_latched first
  · obtain ⟨code, rfl⟩ := exists_latched_of_not_fits fits
    exact (first.eq_of_latched second).symm

end RunState

theorem Snapshot.Form.unique {snapshot other : Snapshot} {json : Json}
    (first : snapshot.Form json) (second : other.Form json) : snapshot = other := by
  have same := Json.IsRecord.values_eq first second rfl (by simp)
  simp only [List.map_cons, List.map_nil, List.cons.injEq, Json.array.injEq, and_true] at same
  obtain ⟨ip, dataStack, returnStack, steps⟩ := same
  have data := Array.toList_inj.1 ((List.map_inj_right integer_word_injective).1 dataStack)
  have returns :=
    Array.toList_inj.1 ((List.map_inj_right integer_natural_injective).1 returnStack)
  cases snapshot
  cases other
  cases data
  cases returns
  cases integer_natural_injective ip
  cases integer_natural_injective steps
  rfl

theorem Fault.Form.unique {fault other : Fault} {json : Json} (first : fault.Form json)
    (second : other.Form json) : fault = other := by
  obtain ⟨code, snapshot, coded, snapped, record⟩ := first
  obtain ⟨code', snapshot', coded', snapped', record'⟩ := second
  have same := record.values_eq record' rfl (by simp)
  simp only [List.map_cons, List.map_nil, List.cons.injEq, and_true] at same
  obtain ⟨rfl, address, rfl⟩ := same
  have codes := coded.unique coded'
  have snapshots := snapped.unique snapped'
  cases fault
  cases other
  cases codes
  cases snapshots
  cases integer_natural_injective address
  rfl

theorem Config.Form.unique {config other : Config} {json : Json} (first : config.Form json)
    (second : other.Form json) : config = other := by
  have same := Json.IsRecord.values_eq first second rfl (by simp)
  simp only [List.map_cons, List.map_nil, List.cons.injEq, and_true] at same
  obtain ⟨maxSteps, dataCapacity, returnCapacity⟩ := same
  have limits := optionalForm_injective integer_natural_injective (fun _ => nofun) maxSteps
  cases config
  cases other
  cases limits
  cases integer_natural_injective dataCapacity
  cases integer_natural_injective returnCapacity
  rfl

theorem Row.Form.unique {row other : Row} {json : Json} (first : row.Form json)
    (second : other.Form json) : row = other := by
  obtain ⟨opcode, named, record⟩ := first
  obtain ⟨opcode', named', record'⟩ := second
  have same := record.values_eq record' rfl (by simp)
  simp only [List.map_cons, List.map_nil, List.cons.injEq, and_true] at same
  obtain ⟨address, rfl, operand⟩ := same
  have opcodes := named.unique named'
  have operands := optionalForm_injective integer_word_injective (fun _ => nofun) operand
  rcases row with ⟨_, ⟨_, _⟩⟩
  rcases other with ⟨_, ⟨_, _⟩⟩
  cases opcodes
  cases operands
  cases integer_natural_injective address
  rfl

end TwoStack
