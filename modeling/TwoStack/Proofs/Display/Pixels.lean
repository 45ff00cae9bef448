import TwoStack.Proofs.Machine.Strict

/-!
# What memory shows

The frame buffer is the last 3072 bytes of memory, and each of them is a pixel.  `Memory.Shows` says
where the pixel in a column of a row is found, in memory and among the packed colours.  Only the low
halves of the bytes count, and all of them do: frames look the same exactly if they agree there
(`Frame.SameNibbles`).

`Memory.Redraws` says what a stored word does to the picture.  Its four bytes are four pixels one
after the other, from the end of a row to the start of the next one, as far as they lie in the frame
buffer; every other pixel stays.
-/

namespace TwoStack

/-! ## The laws -/

/-- Where the pixels of a memory are found. -/
structure Memory.Shows (memory : Memory) : Prop where
  /-- The end of memory has the size of a frame. -/
  accepted : Frame.ofBytes? (memory.bytes.extract 13312 memory.bytes.size) = some memory.frame
  visible : ∀ x y, (memory.frame.pixel? x y).isSome ↔ x < 64 ∧ y < 48
  inside : ∀ x y, x < 64 → y < 48 → 64 * y + x < memory.frame.bytes.size
  pixel : ∀ x y, x < 64 → y < 48 → memory.frame.pixel? x y =
    (memory.bytes[13312 + 64 * y + x]?).map Rgb.ofByte
  packed_size : memory.frame.toRgb.size = 9216
  packed : ∀ x y colour, memory.frame.pixel? x y = some colour →
    memory.frame.toRgb[3 * (64 * y + x)]? = some colour.red ∧
      memory.frame.toRgb[3 * (64 * y + x) + 1]? = some colour.green ∧
      memory.frame.toRgb[3 * (64 * y + x) + 2]? = some colour.blue

/-- The bytes of two frames agree in their low halves. -/
def Frame.SameNibbles (frame other : Frame) : Prop :=
  frame.bytes.map (· &&& 0x0F) = other.bytes.map (· &&& 0x0F)

/-- What a word that is stored at an address does to the picture. -/
structure Memory.Redraws (memory after : Memory) (address : Nat) (value : Word) : Prop where
  changed : ∀ x y, after.frame.pixel? x y ≠ memory.frame.pixel? x y →
    address ≤ 13312 + 64 * y + x ∧ 13312 + 64 * y + x < address + 4
  /-- The bytes of the word in the frame buffer are pixels, and rows follow each other. -/
  drawn : ∀ k < 4, ∀ i, address + k = 13312 + i →
    after.frame.pixel? (i % 64) (i / 64) = some (Rgb.ofByte (value.byte k))
  below : address + 4 ≤ 13312 → after.frame = memory.frame
  /-- A word that begins in front of the frame buffer reaches the first pixels of the first row. -/
  leading : 13309 ≤ address → address ≤ 13311 → ∀ x y,
    after.frame.pixel? x y ≠ memory.frame.pixel? x y → y = 0 ∧ x < address + 4 - 13312

/-! ## Colours -/

namespace Rgb

/-- The low half of a byte from the strengths of the channels that it stands for. -/
def nibble (colour : Rgb) : UInt8 :=
  let bit (value : UInt8) (strength : UInt8) : UInt8 := if 0xAA ≤ strength then value else 0
  let bright := if colour.red = 0x55 ∨ colour.red = 0xFF then 0x08 else 0
  bright + bit 0x04 colour.red + bit 0x02 colour.green + bit 0x01 colour.blue

theorem nibble_ofByte (byte : UInt8) : (ofByte byte).nibble = byte &&& 0x0F := by
  have table : ∀ n : Fin 256, (ofByte (UInt8.ofNat n.val)).nibble = UInt8.ofNat n.val &&& 0x0F := by
    decide +kernel
  have found := table ⟨byte.toNat, byte.toNat_lt⟩
  rwa [UInt8.ofNat_toNat] at found

theorem ofByte_nibble (byte : UInt8) : ofByte (byte &&& 0x0F) = ofByte byte := by
  simp only [ofByte, UInt8.and_assoc]
  rfl

/-- The bytes of a colour as they are packed. -/
def channels (colour : Rgb) : List UInt8 := [colour.red, colour.green, colour.blue]

theorem channels_injective : Function.Injective channels := by
  rintro ⟨_, _, _⟩ ⟨_, _, _⟩ same
  simpa [channels] using same

/-- Colours can be unpacked again. -/
theorem flatMap_channels_injective :
    Function.Injective fun colours : List Rgb => colours.flatMap channels := by
  intro colours others same
  dsimp only at same
  induction colours generalizing others with
  | nil =>
      cases others with
      | nil => rfl
      | cons other others => cases same
  | cons colour colours ih =>
      cases others with
      | nil => cases same
      | cons other others =>
          rw [List.flatMap_cons, List.flatMap_cons] at same
          obtain ⟨first, rest⟩ := List.append_inj same rfl
          rw [channels_injective first, ih rest]

end Rgb

/-! ## Packed colours -/

namespace Frame

theorem toList_toRgb (frame : Frame) :
    frame.toRgb.toList = frame.bytes.toList.flatMap fun byte => (Rgb.ofByte byte).channels := by
  have packs (bytes : List UInt8) (packed : Bytes) :
      (bytes.foldl (fun packed byte =>
        ((packed.push (Rgb.ofByte byte).red).push (Rgb.ofByte byte).green).push
          (Rgb.ofByte byte).blue) packed).toList =
        packed.toList ++ bytes.flatMap fun byte => (Rgb.ofByte byte).channels := by
    induction bytes generalizing packed with
    | nil => rw [List.foldl_nil, List.flatMap_nil, List.append_nil]
    | cons byte bytes ih =>
        rw [List.foldl_cons, ih, List.flatMap_cons, Rgb.channels]
        simp only [Array.toList_push, List.append_assoc, List.cons_append, List.nil_append]
  rw [toRgb, ← Array.foldl_toList]
  exact packs frame.bytes.toList #[]

/-- Three bytes are packed for each byte. -/
theorem getElem?_packed (bytes : List UInt8) (i : Nat) {k : Nat} (inside : k < 3) :
    (bytes.flatMap fun byte => (Rgb.ofByte byte).channels)[3 * i + k]? =
      bytes[i]?.bind fun byte => (Rgb.ofByte byte).channels[k]? := by
  induction bytes generalizing i with
  | nil => rfl
  | cons byte bytes ih =>
      rw [List.flatMap_cons]
      have three : (Rgb.ofByte byte).channels.length = 3 := rfl
      cases i with
      | zero =>
          rw [List.getElem?_append_left (by omega), List.getElem?_cons_zero, Option.bind_some,
            Nat.mul_zero, Nat.zero_add]
      | succ i =>
          rw [List.getElem?_append_right (by omega), three, List.getElem?_cons_succ, ← ih]
          congr 1
          omega

theorem getElem?_toRgb (frame : Frame) (i : Nat) {k : Nat} (inside : k < 3) :
    frame.toRgb[3 * i + k]? =
      frame.bytes[i]?.bind fun byte => (Rgb.ofByte byte).channels[k]? := by
  rw [← Array.getElem?_toList, toList_toRgb, getElem?_packed _ _ inside, Array.getElem?_toList]

theorem size_toRgb (frame : Frame) : frame.toRgb.size = 9216 := by
  rw [← Array.length_toList, toList_toRgb, List.length_flatMap]
  have three : (fun byte => (Rgb.ofByte byte).channels.length) = fun _ => 3 := rfl
  rw [three, List.map_const', List.sum_replicate_nat, Array.length_toList, frame.size_bytes]
  rfl

/-! ## Frames that look the same -/

variable {frame other : Frame}

/-- Frames agree in the low halves of their bytes exactly if they have the same colours. -/
theorem sameNibbles_iff :
    frame.SameNibbles other ↔ frame.bytes.map Rgb.ofByte = other.bytes.map Rgb.ofByte := by
  have nibbles (bytes : Bytes) :
      (bytes.map Rgb.ofByte).map Rgb.nibble = bytes.map (· &&& 0x0F) := by
    rw [Array.map_map]
    exact congrArg (fun f => bytes.map f) (funext Rgb.nibble_ofByte)
  have colours (bytes : Bytes) :
      (bytes.map (· &&& 0x0F)).map Rgb.ofByte = bytes.map Rgb.ofByte := by
    rw [Array.map_map]
    exact congrArg (fun f => bytes.map f) (funext Rgb.ofByte_nibble)
  constructor
  · intro same
    rw [← colours, same, colours]
  · intro same
    rw [SameNibbles, ← nibbles, same, nibbles]

theorem pixel?_of_lt {x y : Nat} (column : x < 64) (row : y < 48) (frame : Frame) :
    frame.pixel? x y = (frame.bytes.map Rgb.ofByte)[64 * y + x]? := by
  rw [pixel?, if_pos ⟨column, row⟩, Array.getElem?_map, Nat.mul_comm, width]

theorem pixel?_of_outside {x y : Nat} (outside : ¬(x < 64 ∧ y < 48)) (frame : Frame) :
    frame.pixel? x y = none :=
  if_neg outside

theorem size_colours (frame : Frame) : (frame.bytes.map Rgb.ofByte).size = 3072 := by
  rw [Array.size_map, frame.size_bytes]
  rfl

theorem colours_eq_iff_pixel :
    frame.bytes.map Rgb.ofByte = other.bytes.map Rgb.ofByte ↔
      ∀ x y, frame.pixel? x y = other.pixel? x y := by
  constructor
  · intro same x y
    by_cases inside : x < 64 ∧ y < 48
    · rw [pixel?_of_lt inside.1 inside.2, pixel?_of_lt inside.1 inside.2, same]
    · rw [pixel?_of_outside inside, pixel?_of_outside inside]
  · intro same
    apply Array.ext_getElem?
    intro i
    rcases Nat.lt_or_ge i 3072 with inside | outside
    · have pixel := same (i % 64) (i / 64)
      rwa [pixel?_of_lt (by omega) (by omega), pixel?_of_lt (by omega) (by omega),
        Nat.div_add_mod] at pixel
    · rw [Array.getElem?_eq_none (by rwa [size_colours]),
        Array.getElem?_eq_none (by rwa [size_colours])]

theorem colours_eq_iff_toRgb :
    frame.bytes.map Rgb.ofByte = other.bytes.map Rgb.ofByte ↔ frame.toRgb = other.toRgb := by
  have packs (frame : Frame) :
      frame.toRgb.toList = (frame.bytes.map Rgb.ofByte).toList.flatMap Rgb.channels := by
    rw [toList_toRgb, Array.toList_map, List.flatMap_map]
  rw [← Array.toList_inj, ← Array.toList_inj, packs, packs]
  exact ⟨fun same => same ▸ rfl, fun same => Rgb.flatMap_channels_injective same⟩

/-- Frames look the same, pixel by pixel or packed, exactly if their bytes agree in the low
halves. -/
theorem sameNibbles_iff_looks :
    (frame.SameNibbles other ↔ ∀ x y, frame.pixel? x y = other.pixel? x y) ∧
      (frame.SameNibbles other ↔ frame.toRgb = other.toRgb) :=
  ⟨sameNibbles_iff.trans colours_eq_iff_pixel, sameNibbles_iff.trans colours_eq_iff_toRgb⟩

end Frame

/-! ## The frame in memory -/

namespace Memory

variable {memory after : Memory} {address : Nat} {value : Word}

theorem getElem?_frame {i : Nat} (inside : i < 3072) (memory : Memory) :
    memory.frame.bytes[i]? = memory.bytes[13312 + i]? := by
  have start : frameStart = 13312 := rfl
  have size : memory.bytes.size = 16384 := memory.size_bytes
  have stop : memorySize = 16384 := rfl
  rw [frame, Array.getElem?_extract, size, start, stop, if_pos (by omega)]

theorem pixel?_frame {x y : Nat} (column : x < 64) (row : y < 48) (memory : Memory) :
    memory.frame.pixel? x y = (memory.bytes[13312 + 64 * y + x]?).map Rgb.ofByte := by
  rw [Frame.pixel?_of_lt column row, Array.getElem?_map, getElem?_frame (by omega), Nat.add_assoc]

theorem exists_byte {i : Nat} (inside : i < memorySize) (memory : Memory) :
    ∃ byte, memory.bytes[i]? = some byte :=
  ⟨_, Array.getElem?_eq_getElem (memory.size_bytes.symm ▸ inside)⟩

theorem shows (memory : Memory) : memory.Shows where
  accepted := memory.ofBytes?_frame
  visible x y := by
    by_cases inside : x < 64 ∧ y < 48
    · obtain ⟨byte, found⟩ := memory.exists_byte (i := 13312 + 64 * y + x) (by
        rw [memorySize]
        omega)
      rw [memory.pixel?_frame inside.1 inside.2, found]
      exact iff_of_true rfl inside
    · rw [Frame.pixel?_of_outside inside]
      exact iff_of_false Bool.false_ne_true inside
  inside x y column row := by
    have size : memory.frame.bytes.size = 3072 := memory.frame.size_bytes
    omega
  pixel x y column row := memory.pixel?_frame column row
  packed_size := memory.frame.size_toRgb
  packed x y colour shown := by
    have inside : x < 64 ∧ y < 48 := by
      by_contra outside
      rw [Frame.pixel?_of_outside outside] at shown
      cases shown
    rw [Frame.pixel?_of_lt inside.1 inside.2, Array.getElem?_map, Option.map_eq_some_iff] at shown
    obtain ⟨byte, found, rfl⟩ := shown
    have channel {k : Nat} (within : k < 3) := memory.frame.getElem?_toRgb (64 * y + x) within
    rw [found] at channel
    exact ⟨channel (k := 0) (by omega), channel (k := 1) (by omega), channel (k := 2) (by omega)⟩

/-! ## Stored words -/

theorem bytes_of_writeWord? (written : memory.writeWord? address value = some after) :
    address + 4 ≤ memorySize ∧ after.bytes = memory.bytes.storeWord address value := by
  unfold writeWord? at written
  split at written
  · next fits =>
      cases written
      exact ⟨fits, rfl⟩
  · cases written

theorem getElem?_of_writeWord? (written : memory.writeWord? address value = some after)
    (place : Nat) :
    after.bytes[place]? =
      if address ≤ place ∧ place < address + 4 then some (value.byte (place - address))
      else memory.bytes[place]? := by
  obtain ⟨fits, left⟩ := bytes_of_writeWord? written
  rw [left, Bytes.getElem?_storeWord _ _ _ _ (memory.size_bytes.symm ▸ fits)]

/-- Only the pixels of the four bytes of a word can change. -/
theorem changed_of_writeWord? (written : memory.writeWord? address value = some after) {x y : Nat}
    (changed : after.frame.pixel? x y ≠ memory.frame.pixel? x y) :
    address ≤ 13312 + 64 * y + x ∧ 13312 + 64 * y + x < address + 4 := by
  by_contra outside
  apply changed
  by_cases inside : x < 64 ∧ y < 48
  · rw [pixel?_frame inside.1 inside.2, pixel?_frame inside.1 inside.2,
      getElem?_of_writeWord? written, if_neg outside]
  · rw [Frame.pixel?_of_outside inside, Frame.pixel?_of_outside inside]

theorem redraws (written : memory.writeWord? address value = some after) :
    memory.Redraws after address value where
  changed x y := changed_of_writeWord? written
  drawn k inside i place := by
    have fits : address + 4 ≤ 16384 := (bytes_of_writeWord? written).1
    have pixel : 13312 + 64 * (i / 64) + i % 64 = address + k := by omega
    rw [pixel?_frame (by omega) (by omega), getElem?_of_writeWord? written, pixel,
      if_pos (by omega), Nat.add_sub_cancel_left, Option.map_some]
  below below := by
    have same : after.frame.bytes = memory.frame.bytes := by
      apply Array.ext_getElem?
      intro i
      rcases Nat.lt_or_ge i 3072 with inside | outside
      · rw [getElem?_frame inside, getElem?_frame inside, getElem?_of_writeWord? written,
          if_neg (by omega)]
      · rw [Array.getElem?_eq_none (after.frame.size_bytes.trans_le outside),
          Array.getElem?_eq_none (memory.frame.size_bytes.trans_le outside)]
    rcases shown : after.frame with ⟨bytes, size⟩
    rcases before : memory.frame with ⟨others, sizes⟩
    rw [shown, before] at same
    cases same
    rfl
  leading front start x y changed := by
    have covered := changed_of_writeWord? written changed
    omega

end Memory

/-- What memory shows, which frames look the same, and what a stored word changes. -/
theorem display_mapping (memory : Memory) :
    memory.Shows ∧
      (∀ frame other : Frame,
        (frame.SameNibbles other ↔ ∀ x y, frame.pixel? x y = other.pixel? x y) ∧
          (frame.SameNibbles other ↔ frame.toRgb = other.toRgb)) ∧
      ∀ address value after, memory.writeWord? address value = some after →
        memory.Redraws after address value :=
  ⟨memory.shows, fun _ _ => Frame.sameNibbles_iff_looks, fun _ _ _ => Memory.redraws⟩

/-- A word over the end of the first row: its second byte is the last pixel there, and its third one
the first pixel of the second row. -/
theorem display_mapping_over_row_end :
    let memory := Memory.ofBytes #[]
    let after := memory.storeWord 13374 0x01020408
    memory.writeWord? 13374 0x01020408 = some after ∧
      after.frame.pixel? 63 0 = some ⟨0x00, 0xAA, 0x00⟩ ∧
      after.frame.pixel? 0 1 = some ⟨0xAA, 0x00, 0x00⟩ := by
  intro memory after
  have written : memory.writeWord? 13374 0x01020408 = some after := if_pos (by decide)
  have redraws := (display_mapping memory).2.2 13374 0x01020408 after written
  refine ⟨written, ?_, ?_⟩
  · exact (redraws.drawn 1 (by decide) 63 rfl).trans (by decide)
  · exact (redraws.drawn 2 (by decide) 64 rfl).trans (by decide)

end TwoStack
