import BenchCompare.Binary64.Basic

/-!
# The shortest decimal that reads back

The decimal numbers that round to a given magnitude form an interval around it: it ends halfway to
its two neighbours, and contains its ends exactly if the place is even.  The shortest decimal is
found on the coarsest decimal grid that has a point in the interval; of two such points the nearer
one is taken, and a parameter decides when both are equally near.

All comparisons are made between natural numbers, in half units, after multiplying out the power of
ten of the grid.
-/

namespace BenchCompare

/-- The number `digits · 10 ^ exponent`. -/
structure Decimal where
  digits : Nat
  exponent : Int
  deriving DecidableEq, Repr

/-- Which of two equally near decimals is chosen. -/
inductive Tie where
  | up
  | toEven
  deriving DecidableEq, Repr

namespace Decimal

/-- How many decimal digits a number has; zero has none. -/
def digitCount (n : Nat) : Nat :=
  if n = 0 then 0 else digitCount (n / 10) + 1
termination_by n
decreasing_by omega

/-- The number `digits · 10 ^ exponent` without trailing zeros in its digits. -/
def stripped (digits : Nat) (exponent : Int) : Decimal :=
  if digits ≠ 0 ∧ digits % 10 = 0 then stripped (digits / 10) (exponent + 1)
  else ⟨digits, exponent⟩
termination_by digits
decreasing_by omega

/-- The power of ten just above `num / den`: the `t` with `10 ^ (t - 1) ≤ num / den < 10 ^ t`. -/
def orderAbove (num den : Nat) : Int :=
  if den ≤ num then digitCount (num / den)
  else 1 - (digitCount ((den - 1) / num) : Int)

end Decimal

namespace Magnitude

/-- The half units from zero to the lower end of the interval that rounds to a place, to the place
itself, and to the upper end. -/
structure Surroundings where
  low : Nat
  middle : Nat
  high : Nat
  ends : Bool
  deriving DecidableEq, Repr

/-- The surroundings of a place other than the first and the last. -/
def surroundings (place : Nat) : Surroundings where
  low := unitsAt (place - 1) + unitsAt place
  middle := 2 * unitsAt place
  high := unitsAt place + unitsAt (place + 1)
  ends := place % 2 = 0

namespace Surroundings

/-- The surroundings with every length multiplied by `factor`. -/
def scale (s : Surroundings) (factor : Nat) : Surroundings where
  low := s.low * factor
  middle := s.middle * factor
  high := s.high * factor
  ends := s.ends

/-- Whether a point lies in the interval. -/
def holds (s : Surroundings) (point : Nat) : Bool :=
  if s.ends then s.low ≤ point && point ≤ s.high else s.low < point && point < s.high

/-- The multiple of `step` in the interval that is nearest to the middle, as a count of steps. -/
def nearestStep? (s : Surroundings) (step : Nat) (tie : Tie) : Option Nat :=
  let below := s.middle / step
  let above := below + 1
  match s.holds (below * step), s.holds (above * step) with
  | false, false => none
  | true, false => some below
  | false, true => some above
  | true, true =>
    let down := s.middle - below * step
    let up := above * step - s.middle
    if down < up then some below
    else if up < down then some above
    else
      match tie with
      | .up => some above
      | .toEven => some (if below % 2 = 0 then below else above)

/-- The half units in one. -/
def halvesOfOne : Nat := Nat.pow 2 1075

/-- The nearest point of the grid with step `10 ^ exponent`, if it has a point in the interval. -/
def onGrid? (s : Surroundings) (exponent : Int) (tie : Tie) : Option Decimal :=
  let found :=
    match exponent with
    | .ofNat e => s.nearestStep? (halvesOfOne * Nat.pow 10 e) tie
    | .negSucc e => (s.scale (Nat.pow 10 (e + 1))).nearestStep? halvesOfOne tie
  found.map fun digits => .stripped digits exponent

/-- Tries the grids from `exponent` downwards, at most as many as the first argument says. -/
def search (s : Surroundings) (tie : Tie) : Nat → Int → Decimal
  | 0, exponent => ⟨0, exponent⟩
  | fuel + 1, exponent =>
    match s.onGrid? exponent tie with
    | some decimal => decimal
    | none => search s tie fuel (exponent - 1)

end Surroundings

/-- The shortest decimal that rounds to a finite magnitude.  Seventeen digits always suffice. -/
def shortest (m : Magnitude) (tie : Tie) : Decimal :=
  if m.place = 0 then ⟨0, 0⟩
  else
    let s := surroundings m.place
    s.search tie 17 (Decimal.orderAbove s.middle Surroundings.halvesOfOne - 1)

end Magnitude

end BenchCompare
