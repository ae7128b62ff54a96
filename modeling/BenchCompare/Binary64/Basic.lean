/-!
# Binary64 numbers

A binary64 number is a sign and a *magnitude*, or it is not a number at all.  The magnitudes are
listed in increasing order, and a magnitude is represented by its *place* in that list: place `0` is
zero, place `1` the least positive number, and the last place is infinity.  So comparison is
comparison of places.

Every magnitude is a whole number of *units*, the unit being the least positive number `2⁻¹⁰⁷⁴`.  In
each block of `2⁵²` consecutive places the step is constant; it is one unit in the first two blocks
and doubles from block to block afterwards.  Infinity counts as the number of units that would come
next, `2²⁰⁹⁸`, which makes it the place where every larger number is rounded to.
-/

namespace BenchCompare

/-- The number of places in a block. -/
def blockLength : Nat := Nat.pow 2 52

/-- The place of infinity among the magnitudes. -/
def infinityPlace : Nat := 2047 * blockLength

/-- A non-negative binary64 number or infinity, by its place in increasing order. -/
structure Magnitude where
  place : Nat
  place_le : place ≤ infinityPlace := by decide
  deriving DecidableEq

/-- A binary64 number. -/
inductive Binary64 where
  | nan
  | number (negative : Bool) (size : Magnitude)
  deriving DecidableEq

namespace Magnitude

/-- The number of units of the magnitude at a place. -/
def unitsAt (place : Nat) : Nat :=
  if place < blockLength then place
  else (blockLength + place % blockLength) * Nat.pow 2 (place / blockLength - 1)

/-- The number of units of a magnitude. -/
def units (m : Magnitude) : Nat :=
  unitsAt m.place

/-- The magnitude zero. -/
def zero : Magnitude where
  place := 0

/-- The magnitude infinity. -/
def infinity : Magnitude where
  place := infinityPlace

/-- Whether a magnitude is not infinity. -/
def isFinite (m : Magnitude) : Bool :=
  m.place < infinityPlace

/-- The magnitude at a place; places past infinity count as infinity. -/
def atPlace (place : Nat) : Magnitude where
  place := min place infinityPlace
  place_le := Nat.min_le_right place infinityPlace

end Magnitude

/-! ### Rounding -/

/-- The whole number nearest to `num / den`; halfway, the even one. -/
def halfEven (num den : Nat) : Nat :=
  let quotient := num / den
  let twice := 2 * (num % den)
  if twice < den then quotient
  else if den < twice then quotient + 1
  else quotient + quotient % 2

/-- The whole number nearest to `num / den`; halfway, the greater one. -/
def halfUp (num den : Nat) : Nat :=
  (2 * num + den) / (2 * den)

/-- How many times the step of the magnitudes around `q` units has doubled. -/
def stepAt (q : Nat) : Nat :=
  q.log2 - 52

/-- The magnitude nearest to `num / den` units; halfway, the one at the even place. -/
def Magnitude.nearest (num den : Nat) : Magnitude :=
  let step := stepAt (num / den)
  .atPlace (step * blockLength + halfEven num (den * Nat.pow 2 step))

namespace Binary64

/-- The number of units in one. -/
def unitsOfOne : Nat := Nat.pow 2 1074

/-- The non-negative number nearest to `num / den`. -/
def ofRatio (num den : Nat) : Binary64 :=
  .number false (.nearest (num * unitsOfOne) den)

/-- The number nearest to a natural number. -/
def ofNat (n : Nat) : Binary64 :=
  ofRatio n 1

/-- The number nearest to an integer. -/
def ofInt (n : Int) : Binary64 :=
  .number (n < 0) (.nearest (n.natAbs * unitsOfOne) 1)

/-- Positive zero. -/
def zero : Binary64 := .number false .zero

/-- Positive infinity. -/
def infinity : Binary64 := .number false .infinity

/-- The number with the other sign. -/
def neg : Binary64 → Binary64
  | .nan => .nan
  | .number negative size => .number (!negative) size

/-- The number, negated if `negative` holds. -/
def signed (negative : Bool) (x : Binary64) : Binary64 :=
  if negative then x.neg else x

/-- The number nearest to `significand · 10 ^ exponent`. -/
def ofDecimal (significand : Nat) : Int → Binary64
  | .ofNat e => ofRatio (significand * Nat.pow 10 e) 1
  | .negSucc e => ofRatio significand (Nat.pow 10 (e + 1))

/-! ### Order -/

/-- Whether a number is neither infinite nor not a number. -/
def isFinite : Binary64 → Bool
  | .nan => false
  | .number _ size => size.isFinite

/-- The place of a number on the whole line, both zeros at `0`. -/
def linePlace? : Binary64 → Option Int
  | .nan => none
  | .number negative size => some (if negative then -(size.place : Int) else size.place)

/-- Whether `x` is less than `y`; never if one of them is not a number. -/
def lt (x y : Binary64) : Bool :=
  match x.linePlace?, y.linePlace? with
  | some p, some q => p < q
  | _, _ => false

/-- Whether `x` is at most `y`; never if one of them is not a number. -/
def le (x y : Binary64) : Bool :=
  match x.linePlace?, y.linePlace? with
  | some p, some q => p ≤ q
  | _, _ => false

/-- Whether a number is finite and not below zero. -/
def isFiniteNonneg (x : Binary64) : Bool :=
  x.isFinite && le zero x

/-- The greater of two numbers: `x` unless `y` is truly greater. -/
def max (x y : Binary64) : Binary64 :=
  if lt x y then y else x

end Binary64

end BenchCompare
