/-!
# Canvases

A canvas is a white area of pixels on which boxes are painted.  Pixels are counted from the left and
from the top.
-/

namespace BenchCompare

/-- A colour by its parts of red, green and blue. -/
structure Colour where
  red : UInt8
  green : UInt8
  blue : UInt8
  deriving DecidableEq, Repr

/-- The colour of an empty canvas. -/
def Colour.white : Colour where
  red := 255
  green := 255
  blue := 255

/-- A filled rectangle. -/
structure Box where
  left : Nat
  top : Nat
  width : Nat
  height : Nat
  colour : Colour
  deriving DecidableEq, Repr

/-- Whether a pixel lies in a box. -/
def Box.covers (box : Box) (x y : Nat) : Bool :=
  box.left ≤ x && x < box.left + box.width && box.top ≤ y && y < box.top + box.height

/-- An area of pixels with boxes on it. -/
structure Canvas where
  width : Nat
  height : Nat
  /-- The boxes; where several of them cover a pixel, the first one is seen. -/
  boxes : List Box
  deriving DecidableEq, Repr

namespace Canvas

/-- The colour of a pixel. -/
def colourAt (canvas : Canvas) (x y : Nat) : Colour :=
  match canvas.boxes.find? fun box => box.covers x y with
  | some box => box.colour
  | none => .white

end Canvas

/-! ### Numbers as bytes -/

/-- The last bytes of a number, as many as wanted, the least significant one first. -/
def littleEndian : Nat → Nat → List UInt8
  | 0, _ => []
  | width + 1, n => UInt8.ofNat n :: littleEndian width (n / 256)

/-- The last bytes of a number, as many as wanted, the most significant one first. -/
def bigEndian (width n : Nat) : List UInt8 :=
  (littleEndian width n).reverse

/-- The bytes followed by further ones. -/
def appendBytes (bytes : ByteArray) (further : List UInt8) : ByteArray :=
  further.foldl ByteArray.push bytes

end BenchCompare
