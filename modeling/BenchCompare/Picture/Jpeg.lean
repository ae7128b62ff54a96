import BenchCompare.Picture.Canvas

/-!
# Pictures in JPEG

A JPEG file holds squares of eight by eight pixels.  Here each square is written in a single colour,
that of a pixel in its middle, so only the mean of a square is written and no detail.  A mean is
written as its difference from the one of the square before: the number of bits of the difference,
in four bits, and then these bits; one more bit says that there is no detail.
-/

namespace BenchCompare.Jpeg

/-! ### Colours -/

/-- The whole number nearest to a number of millionths, as a byte. -/
def byteOfMillionths (n : Int) : Int :=
  max 0 (min 255 ((n + 500000) / 1000000))

/-- A colour as brightness and two differences of colour. -/
def brightnessParts (colour : Colour) : List Int :=
  let red : Int := colour.red.toNat
  let green : Int := colour.green.toNat
  let blue : Int := colour.blue.toNat
  [byteOfMillionths (299000 * red + 587000 * green + 114000 * blue),
    byteOfMillionths (128000000 - 168736 * red - 331264 * green + 500000 * blue),
    byteOfMillionths (128000000 + 500000 * red - 418688 * green - 81312 * blue)]

/-! ### Bits -/

/-- The last bits of a number, as many as wanted, the most significant one first. -/
def bitsOf : Nat → Nat → List Bool
  | 0, _ => []
  | width + 1, n => bitsOf width (n / 2) ++ [n % 2 == 1]

/-- The number of bits of a number. -/
def bitCount (n : Nat) : Nat :=
  if n = 0 then 0 else n.log2 + 1

/-- A difference in bits: a negative one counts from below the least number with so many bits. -/
def differenceBits (difference : Int) : List Bool :=
  let width := bitCount difference.natAbs
  let code := if difference < 0 then difference + Nat.pow 2 width - 1 else difference
  bitsOf 4 width ++ bitsOf width code.toNat ++ [false]

/-- Bytes with the bits that do not fill a byte yet. -/
structure BitStream where
  bytes : ByteArray := .empty
  count : Nat := 0
  bits : Nat := 0

/-- The stream with one more bit.  A byte of ones is followed by a byte of zeros, since it would
begin a marker otherwise. -/
def BitStream.push (stream : BitStream) (bit : Bool) : BitStream :=
  let bits := 2 * stream.bits + bit.toNat
  if stream.count = 7 then
    let bytes := stream.bytes.push (UInt8.ofNat bits)
    { bytes := if bits = 255 then bytes.push 0 else bytes }
  else { stream with count := stream.count + 1, bits }

/-- All bytes of the stream, the last one filled up with ones. -/
def BitStream.finish (stream : BitStream) : ByteArray :=
  if stream.count = 0 then stream.bytes
  else ((List.replicate (8 - stream.count) true).foldl BitStream.push stream).bytes

/-! ### Squares -/

/-- The number of squares in a row or a column of pixels. -/
def squareCount (length : Nat) : Nat :=
  (length + 7) / 8

/-- The colour of a square. -/
def squareColour (canvas : Canvas) (column row : Nat) : Colour :=
  canvas.colourAt (min (8 * column + 4) (canvas.width - 1)) (min (8 * row + 4) (canvas.height - 1))

/-- The stream with one more square; `earlier` are the parts of the square before. -/
def pushSquare (canvas : Canvas) (row : Nat) (state : BitStream × List Int) (column : Nat) :
    BitStream × List Int :=
  let parts := brightnessParts (squareColour canvas column row)
  let differences := List.zipWith (fun part earlier => part - earlier) parts state.2
  ((differences.flatMap differenceBits).foldl BitStream.push state.1, parts)

/-- All squares, row by row. -/
def squares (canvas : Canvas) : ByteArray :=
  let start : BitStream × List Int := ({}, [128, 128, 128])
  ((List.range (squareCount canvas.height)).foldl (fun state row =>
    (List.range (squareCount canvas.width)).foldl (pushSquare canvas row) state) start).1.finish

/-! ### Files -/

/-- A marker segment: its length counts its own two bytes. -/
def segment (marker : UInt8) (content : List UInt8) : List UInt8 :=
  [0xFF, marker] ++ bigEndian 2 (content.length + 2) ++ content

/-- The table of factors: every coefficient counts eight times, so a mean is written as it is. -/
def factorTable : List UInt8 :=
  segment 0xDB (0 :: List.replicate 64 8)

/-- The sizes of a picture with three parts of eight bits each. -/
def frame (canvas : Canvas) : List UInt8 :=
  segment 0xC0
    (8 :: bigEndian 2 canvas.height ++ bigEndian 2 canvas.width
      ++ [3, 1, 0x11, 0, 2, 0x11, 0, 3, 0x11, 0])

/-- The code for numbers of bits: each of the numbers from zero to eight, in four bits. -/
def widthCode : List UInt8 :=
  segment 0xC4 ([0x00, 0, 0, 0, 9] ++ List.replicate 12 0 ++ [0, 1, 2, 3, 4, 5, 6, 7, 8])

/-- The code for details: one bit for none. -/
def detailCode : List UInt8 :=
  segment 0xC4 ([0x10, 1] ++ List.replicate 15 0 ++ [0])

/-- The beginning of the squares. -/
def scanHeader : List UInt8 :=
  segment 0xDA [3, 1, 0, 2, 0, 3, 0, 0, 63, 0]

/-- The identification of the format, in its first version and without a resolution. -/
def identification : List UInt8 :=
  segment 0xE0 ("JFIF".toUTF8.data.toList ++ [0, 1, 1, 0, 0, 1, 0, 1, 0, 0])

/-- A canvas as a JPEG file. -/
def ofCanvas (canvas : Canvas) : ByteArray :=
  let front := [0xFF, 0xD8] ++ identification ++ factorTable ++ frame canvas ++ widthCode
    ++ detailCode ++ scanHeader
  appendBytes (appendBytes .empty front ++ squares canvas) [0xFF, 0xD9]

end BenchCompare.Jpeg
