import TwoStack.Bytes

/-!
# The display

A frame is 64 by 48 pixels, one byte each, row after row.  The low four bits of a byte are its
colour: brightness, red, green and blue, from the highest bit down.  The high four bits are ignored.
-/

namespace TwoStack

/-- A colour of three channels. -/
structure Rgb where
  red : UInt8
  green : UInt8
  blue : UInt8
  deriving DecidableEq, Repr

namespace Rgb

/-- The strength of one channel. -/
def channel (on bright : Bool) : UInt8 :=
  match on, bright with
  | false, false => 0x00
  | false, true => 0x55
  | true, false => 0xAA
  | true, true => 0xFF

/-- The colour that a pixel's byte stands for. -/
def ofByte (byte : UInt8) : Rgb :=
  let bright := byte &&& 0x08 != 0
  { red := channel (byte &&& 0x04 != 0) bright
    green := channel (byte &&& 0x02 != 0) bright
    blue := channel (byte &&& 0x01 != 0) bright }

end Rgb

namespace Frame

/-- The pixels of a row. -/
def width : Nat := 64

/-- The rows of a frame. -/
def height : Nat := 48

/-- The bytes of a frame. -/
def size : Nat := width * height

end Frame

/-- The bytes of one picture, row after row. -/
structure Frame where
  bytes : Bytes
  size_bytes : bytes.size = Frame.size

namespace Frame

/-- Accepts exactly as many bytes as a frame has pixels. -/
def ofBytes? (bytes : Bytes) : Option Frame :=
  if h : bytes.size = size then some ⟨bytes, h⟩ else none

/-- The colour in column `x` of row `y`. -/
def pixel? (frame : Frame) (x y : Nat) : Option Rgb :=
  if x < width ∧ y < height then frame.bytes[y * width + x]?.map Rgb.ofByte else none

/-- The colours of all pixels, three bytes each, row after row. -/
def toRgb (frame : Frame) : Bytes :=
  frame.bytes.foldl (fun packed byte =>
    let colour := Rgb.ofByte byte
    ((packed.push colour.red).push colour.green).push colour.blue) #[]

end Frame

/-- A screen keeps the picture shown last and counts the pictures shown. -/
structure Screen where
  last : Option Frame
  shown : Nat

namespace Screen

/-- A screen on which nothing has been shown. -/
def blank : Screen := ⟨none, 0⟩

/-- Shows a picture. -/
def present (screen : Screen) (frame : Frame) : Screen := ⟨some frame, screen.shown + 1⟩

end Screen

end TwoStack
