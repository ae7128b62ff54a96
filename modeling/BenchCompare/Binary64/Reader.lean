import BenchCompare.Binary64.Basic
import BenchCompare.Numeral
import BenchCompare.Text.Basic

/-!
# Reading binary64 numbers

A number is written in decimal: an optional sign, digits with at most one point among them, at least
one digit, and an optional exponent.  The words `inf`, `infinity` and `nan` in any case are numbers
as well.  The value is the binary64 number nearest to the written one.
-/

namespace BenchCompare.Binary64

/-- The digits of a decimal numeral in front of its exponent. -/
structure Mantissa where
  whole : List Char
  fraction : List Char
  deriving DecidableEq

/-- Reads digits with at most one point; what follows them is returned as well. -/
def mantissa? (cs : List Char) : Option (Mantissa × List Char) :=
  let whole := cs.takeWhile Char.isDigit
  let (fraction, rest) :=
    match cs.dropWhile Char.isDigit with
    | '.' :: tail => (tail.takeWhile Char.isDigit, tail.dropWhile Char.isDigit)
    | rest => ([], rest)
  if whole.isEmpty && fraction.isEmpty then none else some (⟨whole, fraction⟩, rest)

/-- Reads a non-empty run of digits up to the end. -/
def allDigits? (cs : List Char) : Option Nat :=
  if !cs.isEmpty && cs.all Char.isDigit then some (Numeral.value cs) else none

/-- Reads what follows the mantissa: nothing, or an exponent. -/
def exponent? : List Char → Option Int
  | [] => some 0
  | mark :: rest =>
    if mark = 'e' || mark = 'E' then
      match rest with
      | '-' :: digits => (allDigits? digits).map fun n => -(n : Int)
      | '+' :: digits => (allDigits? digits).map fun n => (n : Int)
      | digits => (allDigits? digits).map fun n => (n : Int)
    else none

/-- The nearest number to a mantissa with an exponent.  An exponent that is greater in size than
the digits can make up for is replaced by a nearer one, with the same outcome. -/
def ofMantissa (m : Mantissa) (exponent : Int) : Binary64 :=
  let digits := m.whole ++ m.fraction
  let bound : Int := digits.length + 400
  let scale := Max.max (-bound) (min bound exponent) - m.fraction.length
  ofDecimal (Numeral.value digits) scale

/-- Reads a number without its sign. -/
def unsigned? (cs : List Char) : Option Binary64 :=
  if Text.sameLetters cs "inf".toList || Text.sameLetters cs "infinity".toList then some infinity
  else if Text.sameLetters cs "nan".toList then some .nan
  else do
    let (m, rest) ← mantissa? cs
    return ofMantissa m (← exponent? rest)

/-- Reads a number. -/
def parse? : List Char → Option Binary64
  | '-' :: cs => (unsigned? cs).map neg
  | '+' :: cs => unsigned? cs
  | cs => unsigned? cs

end BenchCompare.Binary64
