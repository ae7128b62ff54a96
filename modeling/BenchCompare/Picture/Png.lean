import BenchCompare.Picture.Canvas

/-!
# Pictures in PNG

A PNG file is a signature and a sequence of chunks, each with its length, its name and a checksum.
The pixels are in one chunk, row by row, each row after a byte that says that it is not filtered.
They are stored as they are, in the blocks that the compression format has for that.
-/

namespace BenchCompare.Png

/-! ### Checksums -/

/-- Divides by the polynomial of the cyclic redundancy check, one bit at a time. -/
def crcShift : Nat → UInt32 → UInt32
  | 0, crc => crc
  | bits + 1, crc =>
    crcShift bits (if crc &&& 1 = 1 then (crc >>> 1) ^^^ 0xEDB88320 else crc >>> 1)

/-- The cyclic redundancy check of some bytes, in 32 bits. -/
def crc (bytes : ByteArray) : UInt32 :=
  bytes.foldl (fun crc byte => crcShift 8 (crc ^^^ byte.toUInt32)) 0xFFFFFFFF ^^^ 0xFFFFFFFF

/-- The sums of Adler's checksum after one more byte: of the bytes, and of the sums so far. -/
def adlerStep (sums : Nat × Nat) (byte : UInt8) : Nat × Nat :=
  let low := (sums.1 + byte.toNat) % 65521
  (low, (sums.2 + low) % 65521)

/-- Adler's checksum of some bytes. -/
def adler (bytes : ByteArray) : Nat :=
  let sums := bytes.foldl adlerStep (1, 0)
  sums.2 * 65536 + sums.1

/-! ### Stored data -/

/-- The greatest number of bytes in a stored block. -/
def blockLimit : Nat := 65535

/-- A stored block; `last` says whether it is the last one. -/
def storedBlock (last : Bool) (bytes : ByteArray) : ByteArray :=
  appendBytes .empty
      ((if last then 1 else 0) :: littleEndian 2 bytes.size
        ++ littleEndian 2 (blockLimit - bytes.size))
    ++ bytes

/-- Bytes in stored blocks, with the header and the checksum around them. -/
def stored (bytes : ByteArray) : ByteArray :=
  let count := (bytes.size + blockLimit - 1) / blockLimit
  let blocks := (List.range count).foldl (fun written n =>
    written ++ storedBlock (n + 1 = count) (bytes.extract (n * blockLimit) ((n + 1) * blockLimit)))
    (appendBytes .empty [0x78, 0x01])
  appendBytes blocks (bigEndian 4 (adler bytes))

/-! ### Files -/

/-- A chunk. -/
def chunk (name : String) (bytes : ByteArray) : ByteArray :=
  let named := name.toUTF8 ++ bytes
  appendBytes (appendBytes .empty (bigEndian 4 bytes.size) ++ named)
    (bigEndian 4 (crc named).toNat)

/-- The rows of pixels. -/
def rows (canvas : Canvas) : ByteArray :=
  (List.range canvas.height).foldl (fun bytes y =>
    (List.range canvas.width).foldl (fun bytes x =>
      let colour := canvas.colourAt x y
      ((bytes.push colour.red).push colour.green).push colour.blue)
      (bytes.push 0))
    .empty

/-- The sizes of a picture, and that it has eight bits for each of red, green and blue. -/
def header (canvas : Canvas) : ByteArray :=
  appendBytes .empty
    (bigEndian 4 canvas.width ++ bigEndian 4 canvas.height ++ [8, 2, 0, 0, 0])

/-- A canvas as a PNG file. -/
def ofCanvas (canvas : Canvas) : ByteArray :=
  appendBytes .empty [0x89, 0x50, 0x4E, 0x47, 0x0D, 0x0A, 0x1A, 0x0A]
    ++ chunk "IHDR" (header canvas) ++ chunk "IDAT" (stored (rows canvas)) ++ chunk "IEND" .empty

end BenchCompare.Png
