import BenchCompare.Binary64.Arith
import BenchCompare.Binary64.Reader
import BenchCompare.Json.Value

/-!
# Texts and numbers in JSON

Readers for the two kinds of JSON values that have characters of their own.  Each takes the rest of
the text and returns a value with the rest after it.

A number is read from at most 64 bits of its digits; further digits only move the decimal point.
The power of ten is then multiplied or divided in, which rounds a second time.  A number that
becomes infinite is refused.
-/

namespace BenchCompare.Json

/-- The blanks that may stand between the parts of a value. -/
def isSpace (c : Char) : Bool :=
  c == ' ' || c == '\n' || c == '\t' || c == '\r'

/-- The rest without leading blanks. -/
def skipSpace (cs : List Char) : List Char :=
  cs.dropWhile isSpace

/-- The rest after a word that it has to begin with. -/
def afterWord? (word : String) (cs : List Char) : Option (List Char) :=
  word.toList.isPrefixOf? cs

/-! ### Texts -/

/-- The value of a hexadecimal digit. -/
def hexValue? (c : Char) : Option Nat :=
  if c.isDigit then some (c.toNat - '0'.toNat)
  else if 'a' ≤ c && c ≤ 'f' then some (c.toNat - 'a'.toNat + 10)
  else if 'A' ≤ c && c ≤ 'F' then some (c.toNat - 'A'.toNat + 10)
  else none

/-- The value of four hexadecimal digits. -/
def hexUnit? (a b c d : Char) : Option Nat := do
  return ((← hexValue? a) * 16 + (← hexValue? b)) * 256 + (← hexValue? c) * 16 + (← hexValue? d)

/-- The character that a letter stands for after a backslash. -/
def escaped? (c : Char) : Option Char :=
  [('"', '"'), ('\\', '\\'), ('/', '/'), ('b', Char.ofNat 8), ('f', Char.ofNat 12), ('n', '\n'),
    ('r', '\r'), ('t', '\t')].lookup c

/-- Whether a unit is the first half of a pair. -/
def isHighHalf (n : Nat) : Bool :=
  0xD800 ≤ n && n < 0xDC00

/-- Whether a unit is the second half of a pair. -/
def isLowHalf (n : Nat) : Bool :=
  0xDC00 ≤ n && n < 0xE000

/-- The character that the two halves of a pair stand for. -/
def joinHalves (high low : Nat) : Char :=
  Char.ofNat (0x10000 + (high - 0xD800) * 0x400 + (low - 0xDC00))

/-- A character in front of what was read after it. -/
def push? (c : Char) : Option (List Char × List Char) → Option (List Char × List Char)
  | some (body, rest) => some (c :: body, rest)
  | none => none

/-- Reads the rest of a text after its opening quote. -/
def textBody? : List Char → Option (List Char × List Char)
  | [] => none
  | c :: cs =>
    if c = '"' then some ([], cs)
    else if c.toNat < 32 then none
    else if c ≠ '\\' then push? c (textBody? cs)
    else
      match cs with
      | [] => none
      | e :: cs =>
        if e ≠ 'u' then
          match escaped? e with
          | some plain => push? plain (textBody? cs)
          | none => none
        else
          match cs with
          | h1 :: h2 :: h3 :: h4 :: cs =>
            match hexUnit? h1 h2 h3 h4 with
            | none => none
            | some unit =>
              if isLowHalf unit then none
              else if !isHighHalf unit then push? (Char.ofNat unit) (textBody? cs)
              else
                match cs with
                | '\\' :: 'u' :: l1 :: l2 :: l3 :: l4 :: cs =>
                  match hexUnit? l1 l2 l3 l4 with
                  | none => none
                  | some low =>
                    if isLowHalf low then push? (joinHalves unit low) (textBody? cs) else none
                | _ => none
          | _ => none

/-! ### Values of numbers -/

/-- The digits of a number up to the point where they would exceed 64 bits. -/
structure Significand where
  value : Nat
  /-- How many of the digits did not fit. -/
  dropped : Nat
  deriving DecidableEq, Repr

/-- Reads digits after the value `acc` as long as the value fits in 64 bits. -/
def significand (acc : Nat) : List Char → Significand
  | [] => ⟨acc, 0⟩
  | c :: cs =>
    let next := acc * 10 + (c.toNat - '0'.toNat)
    if next < UInt64.size then significand next cs else ⟨acc, cs.length + 1⟩

/-- Divides by `10 ^ 308` a number of times. -/
def shrink : Nat → Binary64 → Binary64
  | 0, x => x
  | times + 1, x => if x = .zero then x else shrink times (x.div (.ofNat (Nat.pow 10 308)))

/-- The number `significand · 10 ^ exponent` in two roundings or more; `none` if it is too great. -/
def scaled? (significand : Nat) (exponent : Int) : Option Binary64 :=
  let x := Binary64.ofNat significand
  match exponent with
  | .ofNat e =>
    if significand = 0 then some .zero
    else if e ≤ 308 then some (x.mul (.ofNat (Nat.pow 10 e))) |>.filter Binary64.isFinite
    else none
  | .negSucc e =>
    let times := e / 308
    some ((shrink times x).div (.ofNat (Nat.pow 10 (e + 1 - 308 * times))))

/-- The greatest exponent that is read as such. -/
def exponentLimit : Nat := 2147483647

/-- The number with the digits of an exponent, `none` if it is too great. -/
def withExponent? (significand : Nat) (scale : Int) (negativeExponent : Bool)
    (digits : List Char) : Option Binary64 :=
  let exponent := Numeral.value digits
  if exponent ≤ exponentLimit then
    scaled? significand (if negativeExponent then scale - exponent else scale + exponent)
  else if significand ≠ 0 && !negativeExponent then none
  else some .zero

/-- A number without a fraction.  Negative zero and numbers below `-2⁶³` or above `2⁶⁴ - 1` have no
whole form. -/
def wholeNumber? (negative : Bool) (s : Significand) : Option Json :=
  if s.dropped ≠ 0 then (scaled? s.value s.dropped).map fun x => .number (x.signed negative)
  else if !negative then some (.whole s.value)
  else if s.value = 0 || s.value > UInt64.size / 2 then
    some (.number ((Binary64.ofNat s.value).signed true))
  else some (.whole (-(s.value : Int)))

/-! ### Numerals -/

/-- A number as it is written. -/
structure WrittenNumber where
  negative : Bool
  whole : List Char
  fraction : Option (List Char)
  /-- Whether the exponent is negative, and its digits. -/
  exponent : Option (Bool × List Char)
  deriving DecidableEq, Repr

/-- Reads at least one digit. -/
def digits? (cs : List Char) : Option (List Char × List Char) :=
  let digits := cs.takeWhile Char.isDigit
  if digits.isEmpty then none else some (digits, cs.dropWhile Char.isDigit)

/-- Reads the digits in front of the point; a zero stands alone. -/
def wholeDigits? (cs : List Char) : Option (List Char × List Char) :=
  (digits? cs).filter fun (digits, _) => digits.head? != some '0' || digits.length == 1

/-- Reads a fraction, if there is one. -/
def fraction? : List Char → Option (Option (List Char) × List Char)
  | '.' :: cs => (digits? cs).map fun (digits, rest) => (some digits, rest)
  | cs => some (none, cs)

/-- Reads the sign and the digits of an exponent. -/
def exponentDigits? : List Char → Option ((Bool × List Char) × List Char)
  | '-' :: cs => (digits? cs).map fun (digits, rest) => ((true, digits), rest)
  | '+' :: cs => (digits? cs).map fun (digits, rest) => ((false, digits), rest)
  | cs => (digits? cs).map fun (digits, rest) => ((false, digits), rest)

/-- Reads an exponent, if there is one. -/
def exponent? : List Char → Option (Option (Bool × List Char) × List Char)
  | [] => some (none, [])
  | c :: cs =>
    if c = 'e' || c = 'E' then
      (exponentDigits? cs).map fun (exponent, rest) => (some exponent, rest)
    else some (none, c :: cs)

/-- Reads a number without its sign. -/
def unsignedNumber? (negative : Bool) (cs : List Char) : Option (WrittenNumber × List Char) := do
  let (front, rest) ← wholeDigits? cs
  let (fraction, rest) ← fraction? rest
  let (exponent, rest) ← exponent? rest
  return ({ negative, whole := front, fraction, exponent }, rest)

/-- Reads a number as it is written. -/
def writtenNumber? : List Char → Option (WrittenNumber × List Char)
  | '-' :: cs => unsignedNumber? true cs
  | cs => unsignedNumber? false cs

/-- The value of a number, unless it is too great. -/
def WrittenNumber.value? (n : WrittenNumber) : Option Json :=
  let whole := significand 0 n.whole
  let fraction := n.fraction.getD []
  let s := significand whole.value fraction
  let scale : Int := whole.dropped - ((fraction.length - s.dropped : Nat) : Int)
  match n.exponent, n.fraction with
  | some (negative, digits), _ =>
    (withExponent? s.value scale negative digits).map fun x => .number (x.signed n.negative)
  | none, some _ => (scaled? s.value scale).map fun x => .number (x.signed n.negative)
  | none, none => wholeNumber? n.negative whole

/-- Reads a number. -/
def number? (cs : List Char) : Option (Json × List Char) :=
  match writtenNumber? cs with
  | some (n, rest) => n.value?.map fun value => (value, rest)
  | none => none

end BenchCompare.Json
