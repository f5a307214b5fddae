import QuantumBlocks.Chart.Raster
import QuantumBlocks.Text.Base64

/-!
# Rasters as image files

A raster as a file in the PNG format, with a palette of the inks and four bits for a pixel. The
rows are stored without compression.
-/

namespace QuantumBlocks.Chart.Png

/-! ## Numbers -/

/-- A number of 32 bits, the highest byte first. -/
def bigEndian (n : Nat) : List UInt8 :=
  [(n >>> 24).toUInt8, (n >>> 16).toUInt8, (n >>> 8).toUInt8, n.toUInt8]

/-- A number of 16 bits, the lowest byte first. -/
def littleEndian (n : Nat) : List UInt8 := [n.toUInt8, (n >>> 8).toUInt8]

/-! ## Checksums -/

/-- One step of the cyclic redundancy check for one bit. -/
def crcBit (c : UInt32) : UInt32 :=
  if c % 2 = 1 then (0xEDB88320 : UInt32) ^^^ (c >>> 1) else c >>> 1

/-- The cyclic redundancy check goes on with a byte. -/
def crcByte (c : UInt32) (byte : UInt8) : UInt32 :=
  (List.range 8).foldl (fun c _ => crcBit c) (c ^^^ byte.toUInt32)

/-- The cyclic redundancy check of a list of bytes. -/
def crc (bytes : List UInt8) : Nat :=
  ((0xFFFFFFFF : UInt32) ^^^ bytes.foldl crcByte 0xFFFFFFFF).toNat

/-- The sum of all bytes and the sum of all such sums, both modulo a prime. -/
def adler (bytes : List UInt8) : Nat :=
  let (a, b) := bytes.foldl
    (fun (a, b) byte =>
      let a := (a + byte.toNat) % 65521
      (a, (b + a) % 65521)) (1, 0)
  b * 65536 + a

/-! ## Stored data -/

/-- The greatest number that two bytes hold, which is how long a stored block can be. -/
def blockSize : Nat := 65535

/-- The parts of a list that have `size + 1` elements each, and a last one with what is left. -/
def chunks {α : Type} (size : Nat) (xs : List α) : List (List α) :=
  match xs with
  | [] => []
  | x :: rest => (x :: rest.take size) :: chunks size (rest.drop size)
termination_by xs.length
decreasing_by simp only [List.length_drop, List.length_cons]; omega

/-- One stored block; `final` marks the last one. -/
def storedBlock (final : UInt8) (bytes : List UInt8) : List UInt8 :=
  final :: littleEndian bytes.length ++ littleEndian (blockSize - bytes.length) ++ bytes

/-- Stored blocks, of which the last is marked. -/
def storedBlocks : List (List UInt8) → List UInt8
  | [] => []
  | [bytes] => storedBlock 1 bytes
  | bytes :: rest => storedBlock 0 bytes ++ storedBlocks rest

/-- Stored blocks between the header and the checksum of a stream. -/
def stream (bytes : List UInt8) : List UInt8 :=
  [0x78, 0x01] ++ storedBlocks (chunks (blockSize - 1) bytes) ++ bigEndian (adler bytes)

/-! ## Files -/

/-- A part of a file with its length, its kind and its checksum. -/
def part (kind : String) (content : List UInt8) : List UInt8 :=
  let body := kind.toUTF8.toList ++ content
  bigEndian content.length ++ body ++ bigEndian (crc body)

/-- All inks in the order of the palette. -/
def inks : List Ink := [.background, .axis, .grid, .bar, .edge, .text]

/-- The place of an ink in the palette. -/
def place (ink : Ink) : UInt8 := (inks.idxOf ink).toUInt8

/-- The colours of the palette. -/
def palette : List UInt8 :=
  inks.flatMap fun ink => [ink.colour.red, ink.colour.green, ink.colour.blue]

/-- Two pixels in a byte, the left one in its upper half. -/
def pack : List Ink → List UInt8
  | left :: right :: rest => (place left * 16 + place right) :: pack rest
  | [left] => [place left * 16]
  | [] => []

/-- A row after the mark that its pixels are given as they are. -/
def rowBytes (row : List Ink) : List UInt8 := 0 :: pack row

/-- The size of the picture, four bits for a pixel, and a palette. -/
def header : List UInt8 := bigEndian canvasWidth ++ bigEndian canvasHeight ++ [4, 3, 0, 0, 0]

/-- The file of a raster. -/
def encode (p : Raster) : List UInt8 :=
  [0x89, 0x50, 0x4E, 0x47, 0x0D, 0x0A, 0x1A, 0x0A] ++ part "IHDR" header ++ part "PLTE" palette
    ++ part "IDAT" (stream (p.rows.flatMap rowBytes)) ++ part "IEND" []

/-! ## Addresses that hold their data -/

/-- An address that holds an image file. -/
def dataUri (file : List UInt8) : String := "data:image/png;base64," ++ Text.Base64.encode file

end QuantumBlocks.Chart.Png
