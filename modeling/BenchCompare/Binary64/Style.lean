import BenchCompare.Binary64.Shortest
import BenchCompare.Numeral

/-!
# Writing binary64 numbers

There are two ways to write a finite number.  The *shortest* form has the fewest digits that read
back; a record decides where positional writing ends and how an exponent looks.  The *fixed* form
has a given number of places after the point, and rounds the exact binary value, ties to even.
-/

namespace BenchCompare

/-- How the shortest form of a number is laid out.  A number whose leading digit stands for
`10 ^ x` is written positionally for `plainFrom ≤ x < plainBelow`; a missing bound is no bound. -/
structure NumberStyle where
  plainFrom : Option Int
  plainBelow : Option Int
  /-- Whether a whole number is given a point and a zero. -/
  pointZero : Bool
  /-- Whether a positive exponent carries a plus sign. -/
  exponentPlus : Bool
  tie : Tie
  deriving DecidableEq, Repr

namespace NumberStyle

/-- The form used in running text: always positional, whole numbers without a point. -/
def plain : NumberStyle where
  plainFrom := none
  plainBelow := none
  pointZero := false
  exponentPlus := false
  tie := .up

/-- Whether a leading digit for `10 ^ x` is written positionally. -/
def isPlain (style : NumberStyle) (x : Int) : Bool :=
  style.plainFrom.all (· ≤ x) && style.plainBelow.all (x < ·)

/-- Digits written positionally, the last one standing for `10 ^ exponent`. -/
def positional (style : NumberStyle) (digits : List Char) (exponent : Int) : List Char :=
  match exponent with
  | .ofNat e =>
    digits ++ List.replicate e '0' ++ if style.pointZero then ['.', '0'] else []
  | .negSucc e =>
    let places := e + 1
    let padded := List.replicate (places + 1 - digits.length) '0' ++ digits
    let wholeLength := padded.length - places
    padded.take wholeLength ++ '.' :: padded.drop wholeLength

/-- Digits written with an exponent, the first one standing for `10 ^ x`. -/
def scientific (style : NumberStyle) (digits : List Char) (x : Int) : List Char :=
  let mantissa :=
    match digits with
    | first :: second :: rest => first :: '.' :: second :: rest
    | short => short
  let sign := if x < 0 then ['-'] else if style.exponentPlus then ['+'] else []
  mantissa ++ 'e' :: (sign ++ Numeral.digits x.natAbs)

/-- The shortest form of a finite magnitude. -/
def magnitude (style : NumberStyle) (m : Magnitude) : List Char :=
  let decimal := m.shortest style.tie
  let digits := Numeral.digits decimal.digits
  let leading := decimal.exponent + digits.length - 1
  if style.isPlain leading then style.positional digits decimal.exponent
  else style.scientific digits leading

/-- The shortest form of a number; `NaN`, `inf` and `-inf` for what is no finite number. -/
def render (style : NumberStyle) : Binary64 → List Char
  | .nan => "NaN".toList
  | .number negative size =>
    let text := if size.isFinite then style.magnitude size else "inf".toList
    if negative then '-' :: text else text

end NumberStyle

namespace Binary64

/-- A number of units with a fixed number of places after the point. -/
def fixedUnits (places units : Nat) : List Char :=
  let scaled := halfEven (units * Nat.pow 10 places) unitsOfOne
  let whole := Numeral.digits (scaled / Nat.pow 10 places)
  if places = 0 then whole
  else
    let fraction := Numeral.digits (scaled % Nat.pow 10 places)
    whole ++ '.' :: (List.replicate (places - fraction.length) '0' ++ fraction)

/-- A number with a fixed number of places after the point. -/
def fixed (places : Nat) : Binary64 → List Char
  | .nan => "NaN".toList
  | .number negative size =>
    let text := if size.isFinite then fixedUnits places size.units else "inf".toList
    if negative then '-' :: text else text

end Binary64

end BenchCompare
