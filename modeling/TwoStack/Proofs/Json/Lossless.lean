import TwoStack.Proofs.Disk.AllOrNothing
import TwoStack.Proofs.Json.Forms
import TwoStack.Proofs.Json.Reading
import TwoStack.Proofs.Text.Utf8
import TwoStack.Tools.Emulator

/-!
# Nothing is lost in JSON

What holds of a value and its forms holds of their texts, since printed JSON is read back as it was
(`JsonForm.Lossless`).  The registers that are saved in a file are the text of a snapshot, so they
can be read from the file again, and two machines of which the same text was saved agree in their
instruction pointers, their stacks and the number of their steps (`Machine.SavedBy`).
-/

namespace TwoStack

/-! ## Texts -/

/-- A text for every value, and a value for every text. -/
structure JsonForm.Lossless {α : Type} [JsonForm α] (fits : α → Prop) (form : α → Json → Prop) :
    Prop where
  /-- A value is written in one of its forms. -/
  written : ∀ value, form value (JsonForm.toJson value)
  /-- Any form of a value that fits is read back as the value, from text in any layout. -/
  read : ∀ layout value json, fits value → form value json →
    (Json.parse? (json.print layout)).bind JsonForm.ofJson? = some value
  /-- Different values have no text in common. -/
  distinct : ∀ layout layout' value other json json', form value json → form other json' →
    json.print layout = json'.print layout' → value = other

/-- Texts are as good as values. -/
theorem JsonForm.Lossless.of_forms {α : Type} [JsonForm α] {fits : α → Prop}
    {form : α → Json → Prop} (written : ∀ value, form value (toJson value))
    (read : ∀ value json, fits value → form value json → ofJson? json = some value)
    (unique : ∀ value other json, form value json → form other json → value = other) :
    Lossless fits form where
  written := written
  read layout value json fits shaped := by
    rw [Json.parse?_print, Option.bind_some]
    exact read value json fits shaped
  distinct layout layout' value other json json' shaped shaped' same := by
    have parsed := Json.parse?_print layout json
    rw [same, Json.parse?_print] at parsed
    cases parsed
    exact unique value other _ shaped shaped'

/-! ## Files -/

namespace Disk

variable {disk after : Disk} {path : String} {content : Bytes}

/-- A file is written where a path leads to, unless that is a directory or the path says so. -/
theorem exists_place_of_writeFile (written : disk.writeFile path content = .ok after) :
    ∃ place, disk.locate path = .ok place ∧ Path.endsInSlash path = false ∧
      disk.node? place ≠ some .directory ∧ isTooLong place = false ∧
      after = disk.put place (.file content) := by
  rw [writeFile] at written
  rcases located : disk.locate path with cause | place
  · rw [located] at written
    cases written
  · rw [located] at written
    dsimp only at written
    split at written
    · cases written
    · next free =>
        rw [Bool.or_eq_true, not_or, Bool.not_eq_true, beq_iff_eq] at free
        split at written
        · cases written
        · next short =>
            cases written
            exact ⟨place, rfl, free.1, free.2, Bool.eq_false_iff.2 short, rfl⟩

/-- What was written to a file is read from it. -/
theorem readFile_of_writeFile (written : disk.writeFile path content = .ok after) :
    after.readFile path = .ok content := by
  obtain ⟨place, located, plain, free, short, rfl⟩ := exists_place_of_writeFile written
  have inner : place ≠ [] := by
    rintro rfl
    exact free rfl
  rw [readFile, openPath, (sameWays_put free content).locate located]
  dsimp only
  rw [lookUp, short, node?_put_self disk inner, plain]
  rfl

/-- The snapshot whose text a file has. -/
def snapshot? (disk : Disk) (path : String) : Option Snapshot := do
  let content ← (disk.readFile path).toOption
  let text ← String.fromUTF8? ⟨content⟩
  JsonForm.ofJson? (← Json.parse? text)

end Disk

/-! ## Saved registers -/

/-- What the disk of a session says about a machine whose registers were saved there. -/
structure Machine.SavedBy (machine : Machine) (path : String) (after : Session) : Prop where
  /-- The snapshot of the machine can be read from the file. -/
  restored : machine.snapshot.Fits → after.disk.snapshot? path = some machine.snapshot
  /-- The same text is only saved of machines in the same state. -/
  determined : ∀ (session last : Session) (other : Machine) (path' : String),
    EmulatorTool.saveState session other path' = .ok last →
    after.disk.readFile path = last.disk.readFile path' →
    machine.ip = other.ip ∧ machine.data.entries = other.data.entries ∧
      machine.returns.entries = other.returns.entries ∧ machine.steps = other.steps

namespace EmulatorTool

variable {session after : Session} {machine : Machine} {path : String}

/-- The file gets the text of the snapshot. -/
theorem readFile_of_saveState (saved : saveState session machine path = .ok after) :
    after.disk.readFile path =
      .ok ((JsonForm.toJson machine.snapshot).print .indented).toUTF8.data := by
  rw [saveState] at saved
  split at saved
  · cases saved
  · next disk written =>
      cases saved
      exact Disk.readFile_of_writeFile written

theorem savedBy_of_saveState (saved : saveState session machine path = .ok after) :
    machine.SavedBy path after where
  restored fits := by
    have text (text : String) : String.fromUTF8? ⟨text.toUTF8.data⟩ = some text :=
      fromUTF8?_eq_some_iff.2 rfl
    have read := JsonForm.ofJson?_snapshot fits (JsonForm.form_snapshot machine.snapshot)
    rw [Disk.snapshot?, readFile_of_saveState saved]
    simp only [Except.toOption, Option.bind_eq_bind, Option.bind_some, text, Json.parse?_print,
      read]
  determined session' last other path' saved' same := by
    rw [readFile_of_saveState saved, readFile_of_saveState saved'] at same
    have bytes := ByteArray.ext (Except.ok.inj same)
    have forms := Json.print_injective .indented (String.toByteArray_inj.1 bytes)
    have shaped := JsonForm.form_snapshot machine.snapshot
    rw [forms] at shaped
    have snapshots := shaped.unique (JsonForm.form_snapshot other.snapshot)
    exact ⟨congrArg Snapshot.ip snapshots, congrArg Snapshot.dataStack snapshots,
      congrArg Snapshot.returnStack snapshots, congrArg Snapshot.steps snapshots⟩

end EmulatorTool

/-- Every value that is written as JSON is read back as it was, whatever unknown members are added
to its records, and different values have different texts; so the registers that are saved in a file
are those of the machine and of no other. -/
theorem forms_are_lossless :
    JsonForm.Lossless Snapshot.Fits Snapshot.Form ∧
    JsonForm.Lossless Fault.Fits Fault.Form ∧
    JsonForm.Lossless FaultCode.Fits FaultCode.Form ∧
    JsonForm.Lossless RunState.Fits RunState.Form ∧
    JsonForm.Lossless Config.Fits Config.Form ∧
    JsonForm.Lossless (fun _ => True) FaultClass.Form ∧
    JsonForm.Lossless (fun _ => True) Opcode.Form ∧
    JsonForm.Lossless Row.Fits Row.Form ∧
    ∀ (session after : Session) (machine : Machine) (path : String),
      EmulatorTool.saveState session machine path = .ok after → machine.SavedBy path after :=
  ⟨.of_forms JsonForm.form_snapshot (fun _ _ => JsonForm.ofJson?_snapshot)
      fun _ _ _ => Snapshot.Form.unique,
    .of_forms JsonForm.form_fault (fun _ _ => JsonForm.ofJson?_fault)
      fun _ _ _ => Fault.Form.unique,
    .of_forms JsonForm.form_faultCode (fun _ _ => JsonForm.ofJson?_faultCode)
      fun _ _ _ => FaultCode.Form.unique,
    .of_forms JsonForm.form_runState (fun _ _ => JsonForm.ofJson?_runState)
      fun _ _ _ => RunState.Form.unique,
    .of_forms JsonForm.form_config (fun _ _ => JsonForm.ofJson?_config)
      fun _ _ _ => Config.Form.unique,
    .of_forms JsonForm.form_faultClass (fun _ _ _ => JsonForm.ofJson?_faultClass)
      fun _ _ _ => FaultClass.Form.unique,
    .of_forms JsonForm.form_opcode (fun _ _ _ => JsonForm.ofJson?_opcode)
      fun _ _ _ => Opcode.Form.unique,
    .of_forms JsonForm.form_row (fun _ _ => JsonForm.ofJson?_row) fun _ _ _ => Row.Form.unique,
    fun _ _ _ _ => EmulatorTool.savedBy_of_saveState⟩

/-- A fault at the limits of its numbers is read back, with unknown members beside its fields and
inside its code, and the registers of a machine are saved in an empty directory. -/
theorem forms_are_lossless_at_limits :
    let snapshot : Snapshot :=
      ⟨2 ^ 64 - 1, #[-2147483648, 2147483647], #[0, 2 ^ 64 - 1], 2 ^ 64 - 1⟩
    let fault : Fault := ⟨.addressOutOfBounds (-2 ^ 63), 0, snapshot⟩
    let code : Json := .object [(some "note", .null), (some "address", .integer (-2 ^ 63))]
    let widened : Json := .object
      [(some "code", .record [("AddressOutOfBounds", code)]), (some "address", .integer 0),
        (some "snapshot", JsonForm.toJson snapshot), (some "note", .array [.real])]
    let machine : Machine := .load ⟨#[], by decide⟩ {}
    let session : Session := { disk := .empty, journal := .empty ⟨[], none⟩ }
    (Json.parse? (widened.print .indented)).bind JsonForm.ofJson? = some fault ∧
      ∃ after, EmulatorTool.saveState session machine "s" = .ok after ∧
        after.disk.snapshot? "s" = some machine.snapshot := by
  intro snapshot fault code widened machine session
  obtain ⟨_, faults, _, _, _, _, _, _, saves⟩ := forms_are_lossless
  constructor
  · have fits : fault.Fits :=
      ⟨⟨Int.le_refl _, by decide⟩, by decide, ⟨by decide, by decide, by decide⟩⟩
    have coded : fault.code.Form (.record [("AddressOutOfBounds", code)]) :=
      .addressOutOfBounds ⟨_, rfl, .add (by decide) _ (.refl _ _)⟩
    have shaped : fault.Form widened :=
      ⟨_, _, coded, JsonForm.form_snapshot snapshot, _, rfl,
        .keep _ (.keep _ (.keep _ (.add (by decide) _ .none)))⟩
    exact faults.read .indented fault widened fits shaped
  · have steps : Path.steps "s" = ["s"] := by
      have split : "s".splitOn "/" = ["s"] := by
        rw [String.splitOn, if_neg (by decide), String.splitOnAux, if_neg (by decide),
          if_neg (by decide), String.splitOnAux, if_pos (by decide)]
        decide
      rw [Path.steps, split]
      decide
    have located : session.disk.locate "s" = .ok ["s"] := by
      rw [Disk.locate, String.contains_char_eq, steps]
      rfl
    have saved : ∃ after, EmulatorTool.saveState session machine "s" = .ok after := by
      rw [EmulatorTool.saveState, Disk.writeFile, located]
      exact ⟨_, rfl⟩
    obtain ⟨after, saved⟩ := saved
    exact ⟨after, saved, (saves session after machine "s" saved).restored
      ⟨by decide, by decide, by decide⟩⟩

end TwoStack
