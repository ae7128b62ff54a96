import BenchCompare.Binary64.Basic

/-!
# Binary64 arithmetic

Each operation is the exact result, rounded once to the nearest magnitude.  The exact results are
quotients of natural numbers of units, so `Magnitude.nearest` is all the rounding there is.
-/

namespace BenchCompare.Binary64

/-- The product of two numbers. -/
def mul : Binary64 → Binary64 → Binary64
  | .number s a, .number t b =>
    if a.isFinite && b.isFinite then
      .number (s != t) (.nearest (a.units * b.units) unitsOfOne)
    else if a.place = 0 || b.place = 0 then .nan
    else .number (s != t) .infinity
  | _, _ => .nan

/-- The quotient of two numbers. -/
def div : Binary64 → Binary64 → Binary64
  | .number s a, .number t b =>
    if a.isFinite then
      if !b.isFinite then .number (s != t) .zero
      else if b.place = 0 then
        if a.place = 0 then .nan else .number (s != t) .infinity
      else .number (s != t) (.nearest (a.units * unitsOfOne) b.units)
    else if b.isFinite then .number (s != t) .infinity
    else .nan
  | _, _ => .nan

/-- The whole number of units of a finite number, with its sign. -/
def signedUnits (negative : Bool) (size : Magnitude) : Int :=
  if negative then -(size.units : Int) else size.units

/-- The absolute value of the difference of two numbers. -/
def distance : Binary64 → Binary64 → Binary64
  | .number s a, .number t b =>
    if a.isFinite && b.isFinite then
      .number false (.nearest (signedUnits s a - signedUnits t b).natAbs 1)
    else if !a.isFinite && !b.isFinite && s == t then .nan
    else infinity
  | _, _ => .nan

/-- The nearest whole number, halfway the greater one in size, as a count of 64 bits: numbers that
are negative or no numbers count as zero, and numbers that are too great as the greatest count. -/
def toCount : Binary64 → UInt64
  | .nan => 0
  | .number negative size =>
    if negative then 0 else UInt64.ofNat (min (halfUp size.units unitsOfOne) (UInt64.size - 1))

end BenchCompare.Binary64
