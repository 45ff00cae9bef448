import TwoStack.Display

/-!
# Pictures as PNG files

A frame is saved as a PNG file of eight bits per channel: a signature, a header chunk, one data
chunk and an end chunk.  The data is a zlib stream of one stored block, and every row of pixels
begins with a zero byte, which says that the row is not filtered.  `decode?` reads files of exactly
this form.
-/

namespace TwoStack

/-- A picture of three bytes per pixel, row after row. -/
structure Picture where
  width : Nat
  height : Nat
  rgb : Bytes
  deriving DecidableEq, Repr

/-- The colours of a frame as a picture. -/
def Frame.picture (frame : Frame) : Picture := ⟨Frame.width, Frame.height, frame.toRgb⟩

namespace Png

/-- A number in four bytes, most significant first. -/
def fourBytes (n : Nat) : Bytes :=
  #[UInt8.ofNat (n / 16777216), UInt8.ofNat (n / 65536), UInt8.ofNat (n / 256), UInt8.ofNat n]

/-- The number in four bytes from an index on, most significant first. -/
def readFourBytes (bytes : Bytes) (index : Nat) : Nat :=
  (bytes.extract index (index + 4)).foldl (fun n byte => n * 256 + byte.toNat) 0

/-- One bit of the division behind the check sum of a chunk. -/
def crcShift (crc : UInt32) : UInt32 :=
  if crc &&& 1 == 1 then (crc >>> 1) ^^^ 0xEDB88320 else crc >>> 1

/-- The check sum of a chunk after one more byte. -/
def crcByte (crc : UInt32) (byte : UInt8) : UInt32 :=
  crcShift (crcShift (crcShift (crcShift (crcShift (crcShift (crcShift (crcShift
    (crc ^^^ byte.toUInt32))))))))

/-- The check sum of a chunk: the cyclic redundancy check of 32 bits. -/
def crc (bytes : Bytes) : UInt32 := bytes.foldl crcByte 0xFFFFFFFF ^^^ 0xFFFFFFFF

/-- The check sum of a zlib stream: a sum of the bytes and a sum of those sums. -/
def adler (bytes : Bytes) : Nat :=
  let (a, b) := bytes.foldl (fun (a, b) byte =>
    let a := (a + byte.toNat) % 65521
    (a, (b + a) % 65521)) (1, 0)
  b * 65536 + a

/-- A chunk: the length of its content, its four letters, the content, the check sum. -/
def chunk (letters : String) (content : Bytes) : Bytes :=
  let body := letters.toUTF8.data ++ content
  fourBytes content.size ++ body ++ fourBytes (crc body).toNat

/-- The bytes that every file begins with. -/
def signature : Bytes := #[0x89, 0x50, 0x4E, 0x47, 0x0D, 0x0A, 0x1A, 0x0A]

/-- The content of the header chunk: the size, eight bits per channel, three channels. -/
def header (picture : Picture) : Bytes :=
  fourBytes picture.width ++ fourBytes picture.height ++ #[8, 2, 0, 0, 0]

/-- The rows of a picture, each after its zero byte. -/
def rows (picture : Picture) : Bytes :=
  (List.range picture.height).foldl (fun rows y =>
    rows.push 0 ++ picture.rgb.extract (y * (3 * picture.width)) ((y + 1) * (3 * picture.width))) #[]

/-- A zlib stream of one stored block, which holds up to 65535 bytes. -/
def stored (content : Bytes) : Bytes :=
  let low := UInt8.ofNat content.size
  let high := UInt8.ofNat (content.size / 256)
  #[0x78, 0x01, 0x01, low, high, ~~~low, ~~~high] ++ content ++ fourBytes (adler content)

/-- A picture as a file. -/
def encode (picture : Picture) : Bytes :=
  signature ++ chunk "IHDR" (header picture) ++ chunk "IDAT" (stored (rows picture))
    ++ chunk "IEND" #[]

/-- The picture that a file of this form holds. -/
def decode? (bytes : Bytes) : Option Picture :=
  let width := readFourBytes bytes 16
  let height := readFourBytes bytes 20
  let row := 1 + 3 * width
  if bytes.size < 48 + height * row then none
  else
    let content := bytes.extract 48 (48 + height * row)
    let rgb := (List.range height).foldl (fun rgb y =>
      rgb ++ content.extract (y * row + 1) ((y + 1) * row)) #[]
    let picture : Picture := ⟨width, height, rgb⟩
    if encode picture == bytes then some picture else none

end Png

end TwoStack
