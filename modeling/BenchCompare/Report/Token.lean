import BenchCompare.Binary64.Reader
import BenchCompare.Run.Basic
import BenchCompare.Text.Basic

/-!
# Quantities in a report

A quantity in a report is a decimal number with a unit right after it.  The number has digits and at
most one point, no sign and no exponent; the unit scales it.  Three kinds of quantities differ only
in their units: times, sizes and plain counts.  Shares are written with a percent sign instead.
-/

namespace BenchCompare.Report

/-- Whether a character belongs to the number in front of a unit. -/
def isNumberChar (c : Char) : Bool :=
  c.isDigit || c == '.'

/-- The number at the start of a token, blanks around the token aside, and the unit after it. -/
def amount? (token : List Char) : Option (Binary64 × List Char) :=
  let token := Text.trim token
  let number := token.takeWhile isNumberChar
  if number.isEmpty then none
  else (Binary64.parse? number).map fun x => (x, token.dropWhile isNumberChar)

/-- The number of nanoseconds in a unit of time. -/
def timeUnit? (unit : List Char) : Option Nat :=
  [("ns", 1), ("us", 1000), ("µs", 1000), ("μs", 1000), ("ms", 1000000), ("s", 1000000000),
    ("m", 60 * 1000000000), ("h", 3600 * 1000000000)].lookup (String.ofList unit)

/-- The number of bytes in a unit of size. -/
def sizeUnit? (unit : List Char) : Option Nat :=
  let kilo := 1024
  let mega := 1024 * kilo
  let giga := 1024 * mega
  let tera := 1024 * giga
  [("", 1), ("B", 1), ("K", kilo), ("KB", kilo), ("M", mega), ("MB", mega), ("G", giga),
    ("GB", giga), ("T", tera), ("TB", tera)].lookup (String.ofList unit)

/-- The factor that a unit of counting stands for. -/
def countUnit? (unit : List Char) : Option Nat :=
  [("", 1), ("k", 1000), ("M", 1000000), ("G", 1000000000)].lookup (String.ofList unit)

/-- A quantity as a multiple of the base unit. -/
def quantity? (unit? : List Char → Option Nat) (token : List Char) : Option Binary64 :=
  match amount? token with
  | none => none
  | some (number, unit) => (unit? unit).map fun scale => number.mul (.ofNat scale)

/-- A time, such as `635.91us`. -/
def duration? (token : List Char) : Option Duration :=
  (quantity? timeUnit? token).map fun x => ⟨x.toCount⟩

/-- A size in bytes, such as `17.76GB`. -/
def size? (token : List Char) : Option UInt64 :=
  (quantity? sizeUnit? token).map Binary64.toCount

/-- A plain count, such as `56.20k`. -/
def count? (token : List Char) : Option Binary64 :=
  quantity? countUnit? token

/-- The number in front of a final percent sign. -/
def beforePercent? (token : List Char) : Option Binary64 :=
  match ['%'].isSuffixOf? token with
  | none => none
  | some number => Binary64.parse? number

/-- A percentage, such as `99.9%`; it has to be finite. -/
def percent? (token : List Char) : Option Binary64 :=
  (beforePercent? token).filter Binary64.isFinite

/-- The share of samples within one deviation.  With no samples there is no share, and zero stands
for it. -/
def share? (token : List Char) : Option Binary64 :=
  (beforePercent? token).map fun x => if x.isFinite then x else .zero

end BenchCompare.Report
