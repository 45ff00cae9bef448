import TwoStack.Json
import TwoStack.Machine

/-!
# JSON forms

How the state of a machine is written as JSON and read back.  A record is written as an object with
its fields in order; a case without data as its name, and a case with data as an object whose one
member has that name.  Read back, a case without data may also come with `null`, a record may be an
array of all its fields, and a field that may be absent is absent or `null`.  An integer has to lie
in the range of its field.
-/

namespace TwoStack

/-- A type with a JSON form. -/
class JsonForm (α : Type) where
  /-- The form of a value. -/
  toJson : α → Json
  /-- The value that has a form. -/
  ofJson? : Json → Option α

namespace JsonForm

/-- Reads a field that has to be there. -/
def field? {α : Type} [JsonForm α] : Option Json → Option α
  | some value => ofJson? value
  | none => none

/-- Reads a case without data: one of the given names. -/
def named? {α : Type} (cases : List (String × α)) (name : String) (data : Option Json) : Option α :=
  match data with
  | none | some .null => cases.lookup name
  | some _ => none

/-- A number of steps, an address, a capacity: natural numbers of 64 bits. -/
instance : JsonForm Nat where
  toJson value := .integer value
  ofJson? json := (json.integerIn? 0 18446744073709551615).map Int.toNat

/-- An address that may be outside memory: integers of 64 bits. -/
instance : JsonForm Int where
  toJson value := .integer value
  ofJson? json := json.integerIn? (-9223372036854775808) 9223372036854775807

instance : JsonForm Word where
  toJson value := .integer value.toInt
  ofJson? json := (json.integerIn? (-2147483648) 2147483647).map Int32.ofInt

instance : JsonForm UInt8 where
  toJson value := .integer value.toNat
  ofJson? json := (json.integerIn? 0 255).map fun value => UInt8.ofNat value.toNat

/-- An optional value: `null` stands for none. -/
instance {α : Type} [JsonForm α] : JsonForm (Option α) where
  toJson
    | some value => toJson value
    | none => .null
  ofJson?
    | .null => some none
    | json => (ofJson? json).map some

instance {α : Type} [JsonForm α] : JsonForm (Array α) where
  toJson values := .array (values.toList.map toJson)
  ofJson?
    | .array items => (items.mapM ofJson?).map List.toArray
    | _ => none

/-- Reads a field that may be absent. -/
def optionalField? {α : Type} [JsonForm α] : Option Json → Option (Option α)
  | some value => ofJson? value
  | none => some none

/-- The name of an instruction in JSON. -/
def opcodeName : Opcode → String
  | .nop => "Nop"
  | .binary .add => "Add"
  | .binary .sub => "Sub"
  | .unary .neg => "Neg"
  | .binary .shl => "Shl"
  | .binary .shr => "Shr"
  | .binary .and => "And"
  | .binary .or => "Or"
  | .binary .xor => "Xor"
  | .unary .not => "Not"
  | .jmp => "Jmp"
  | .jz => "Jz"
  | .jnz => "Jnz"
  | .push => "Push"
  | .rm => "Rm"
  | .pushIp => "PushIp"
  | .popIp => "PopIp"
  | .rmIp => "RmIp"
  | .pushPm => "PushPm"
  | .popPm => "PopPm"
  | .input => "Input"
  | .peek => "Peek"
  | .halt => "Halt"

instance : JsonForm Opcode where
  toJson opcode := .text (opcodeName opcode)
  ofJson? json := do
    let (name, data) ← json.case?
    named? (Opcode.all.toList.map fun opcode => (opcodeName opcode, opcode)) name data

/-- The name of a class of faults in JSON. -/
def faultClassName : FaultClass → String
  | .stack => "Stack"
  | .memory => "Memory"
  | .decode => "Decode"
  | .console => "Console"

instance : JsonForm FaultClass where
  toJson faultClass := .text (faultClassName faultClass)
  ofJson? json := do
    let (name, data) ← json.case?
    named? ([.stack, .memory, .decode, .console].map fun case => (faultClassName case, case)) name data

/-- The name of the case of a fault code in JSON. -/
def faultCodeName : FaultCode → String
  | .dataStackUnderflow => "DataStackUnderflow"
  | .instructionStackUnderflow => "InstructionStackUnderflow"
  | .stackOverflow => "StackOverflow"
  | .addressOutOfBounds _ => "AddressOutOfBounds"
  | .unknownOpcode _ => "UnknownOpcode"
  | .truncatedOperand => "TruncatedOperand"
  | .malformedInput => "MalformedInput"
  | .outputFailed => "OutputFailed"

instance : JsonForm FaultCode where
  toJson code :=
    match code with
    | .addressOutOfBounds address =>
      .record [(faultCodeName code, .record [("address", toJson address)])]
    | .unknownOpcode byte => .record [(faultCodeName code, toJson byte)]
    | _ => .text (faultCodeName code)
  ofJson? json := do
    let (name, data) ← json.case?
    match name, data with
    | "AddressOutOfBounds", some value =>
      match value.fields? ["address"] with
      | some [address] => return .addressOutOfBounds (← field? address)
      | _ => none
    | "UnknownOpcode", some value => return .unknownOpcode (← ofJson? value)
    | name, data =>
      named? ([.dataStackUnderflow, .instructionStackUnderflow, .stackOverflow, .truncatedOperand,
        .malformedInput, .outputFailed].map fun case => (faultCodeName case, case)) name data

instance : JsonForm Snapshot where
  toJson snapshot := .record
    [("ip", toJson snapshot.ip), ("data_stack", toJson snapshot.dataStack),
      ("instruction_stack", toJson snapshot.returnStack), ("steps", toJson snapshot.steps)]
  ofJson? json := do
    match ← json.fields? ["ip", "data_stack", "instruction_stack", "steps"] with
    | [ip, dataStack, returnStack, steps] =>
      return ⟨← field? ip, ← field? dataStack, ← field? returnStack, ← field? steps⟩
    | _ => none

instance : JsonForm Fault where
  toJson fault := .record
    [("code", toJson fault.code), ("address", toJson fault.address),
      ("snapshot", toJson fault.snapshot)]
  ofJson? json := do
    match ← json.fields? ["code", "address", "snapshot"] with
    | [code, address, snapshot] => return ⟨← field? code, ← field? address, ← field? snapshot⟩
    | _ => none

instance : JsonForm RunState where
  toJson
    | .running => .text "Running"
    | .halted => .text "Halted"
    | .endOfMemory => .text "EndOfMemory"
    | .faultLatched code => .record [("FaultLatched", toJson code)]
  ofJson? json := do
    let (name, data) ← json.case?
    match name, data with
    | "FaultLatched", some value => return .faultLatched (← ofJson? value)
    | name, data =>
      named? [("Running", .running), ("Halted", .halted), ("EndOfMemory", .endOfMemory)] name data

instance : JsonForm Config where
  toJson config := .record
    [("max_steps", toJson config.maxSteps), ("data_stack_capacity", toJson config.dataCapacity),
      ("instruction_stack_capacity", toJson config.returnCapacity)]
  ofJson? json := do
    match ← json.fields? ["max_steps", "data_stack_capacity", "instruction_stack_capacity"] with
    | [maxSteps, dataCapacity, returnCapacity] =>
      return ⟨← optionalField? maxSteps, ← field? dataCapacity, ← field? returnCapacity⟩
    | _ => none

instance : JsonForm Row where
  toJson row := .record
    [("addr", toJson row.address), ("opcode", toJson row.instruction.opcode),
      ("operand", toJson row.instruction.operand)]
  ofJson? json := do
    match ← json.fields? ["addr", "opcode", "operand"] with
    | [address, opcode, operand] =>
      return ⟨← field? address, ← field? opcode, ← optionalField? operand⟩
    | _ => none

end JsonForm

end TwoStack
