import BenchCompare.Picture.Canvas

/-!
# Pictures in BMP

A BMP file has a header of 54 bytes.  The rows of pixels follow from the bottom to the top, blue
first, and each row is filled up to a multiple of four bytes.
-/

namespace BenchCompare.Bmp

/-- The number of bytes that fill up a row. -/
def rowFill (canvas : Canvas) : Nat :=
  (4 - 3 * canvas.width % 4) % 4

/-- The header of a BMP file. -/
def header (canvas : Canvas) : List UInt8 :=
  let size := (3 * canvas.width + rowFill canvas) * canvas.height
  [0x42, 0x4D] ++ littleEndian 4 (54 + size) ++ littleEndian 4 0 ++ littleEndian 4 54
    ++ littleEndian 4 40 ++ littleEndian 4 canvas.width ++ littleEndian 4 canvas.height
    ++ littleEndian 2 1 ++ littleEndian 2 24 ++ littleEndian 4 0 ++ littleEndian 4 size
    ++ littleEndian 16 0

/-- A canvas as a BMP file. -/
def ofCanvas (canvas : Canvas) : ByteArray :=
  (List.range canvas.height).foldl (fun bytes row =>
    let y := canvas.height - 1 - row
    appendBytes
      ((List.range canvas.width).foldl (fun bytes x =>
        let colour := canvas.colourAt x y
        ((bytes.push colour.blue).push colour.green).push colour.red) bytes)
      (List.replicate (rowFill canvas) 0))
    (appendBytes .empty (header canvas))

end BenchCompare.Bmp
