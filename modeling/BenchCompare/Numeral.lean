/-!
# Whole numbers in decimal digits

A whole number is written with ASCII digits after an optional sign.  Reading knows the bounds of the
wanted number, and says which of the possible faults comes first, from left to right: a character
that is no digit, or the digit at which the bound is passed.
-/

namespace BenchCompare

/-- Why a text is not a whole number within the wanted bounds. -/
inductive NumeralFault where
  | empty
  | invalidDigit
  | tooLarge
  | tooSmall
  deriving DecidableEq, Repr

/-- The wording of a fault. -/
def NumeralFault.message : NumeralFault → String
  | .empty => "cannot parse integer from empty string"
  | .invalidDigit => "invalid digit found in string"
  | .tooLarge => "number too large to fit in target type"
  | .tooSmall => "number too small to fit in target type"

namespace Numeral

/-- The value of an ASCII digit. -/
def digit? (c : Char) : Option Nat :=
  if c.isDigit then some (c.toNat - '0'.toNat) else none

/-- Reads digits after the value `acc`, none of which may lead past `limit`. -/
def digitsWithin (limit : Nat) : Nat → List Char → Except NumeralFault Nat
  | acc, [] => .ok acc
  | acc, c :: cs =>
    match digit? c with
    | none => .error .invalidDigit
    | some d =>
      if acc * 10 + d ≤ limit then digitsWithin limit (acc * 10 + d) cs else .error .tooLarge

/-- Reads a number from zero to `limit`, with an optional plus sign. -/
def natural (limit : Nat) : List Char → Except NumeralFault Nat
  | [] => .error .empty
  | '+' :: [] => .error .invalidDigit
  | '+' :: c :: cs => digitsWithin limit 0 (c :: cs)
  | cs => digitsWithin limit 0 cs

/-- Reads a number from `-low` to `high`, with an optional sign. -/
def integer (low high : Nat) : List Char → Except NumeralFault Int
  | '-' :: c :: cs =>
    match digitsWithin low 0 (c :: cs) with
    | .ok n => .ok (-(n : Int))
    | .error .tooLarge => .error .tooSmall
    | .error fault => .error fault
  | cs =>
    match natural high cs with
    | .ok n => .ok (n : Int)
    | .error fault => .error fault

/-- Reads a number that fits in 32 bits. -/
def word32 (cs : List Char) : Except NumeralFault UInt32 :=
  (natural (UInt32.size - 1) cs).map UInt32.ofNat

/-- Reads a number that fits in 64 bits. -/
def word64 (cs : List Char) : Except NumeralFault UInt64 :=
  (natural (UInt64.size - 1) cs).map UInt64.ofNat

/-- The value of a run of digits; other characters count as nothing. -/
def value (cs : List Char) : Nat :=
  cs.foldl (fun acc c => acc * 10 + (c.toNat - '0'.toNat)) 0

/-- The decimal digits of a natural number, without leading zeros. -/
def digits (n : Nat) : List Char :=
  Nat.toDigits 10 n

/-- A natural number in decimal. -/
def text (n : Nat) : String :=
  String.ofList (digits n)

/-- An integer in decimal, with a sign if it is negative. -/
def integerText (n : Int) : String :=
  if n < 0 then String.ofList ('-' :: digits n.natAbs) else text n.natAbs

end Numeral

end BenchCompare
