import BenchCompare.Binary64.Arith

/-!
# Bounds of rounding

How far rounding can go.  A quotient of less than `2 ^ k` units is rounded to a place in the first
`k - 51` blocks, so it stays finite for every `k` up to `2097` (`Magnitude.isFinite_nearest`).  In the
other direction, a magnitude in the first `k + 2` blocks has less than `2 ^ (53 + k)` units
(`Magnitude.units_lt_of_place_lt`); a finite one is in the first `2047` blocks.
-/

namespace BenchCompare

/-- Powers of two as they occur in the numbers of units. -/
theorem natPow_two_add (i j : Nat) : Nat.pow 2 (i + j) = Nat.pow 2 i * Nat.pow 2 j :=
  Nat.pow_add 2 i j

theorem natPow_two_pos (i : Nat) : 0 < Nat.pow 2 i :=
  Nat.pow_pos (by decide)

/-- One is a power of two of units.  The exponent has a name here, for the power is not to be
evaluated. -/
theorem exists_unitsOfOne_eq : ∃ e, e = 1074 ∧ Binary64.unitsOfOne = Nat.pow 2 e :=
  ⟨1074, by decide +kernel⟩

theorem natPow_two_mul_unitsOfOne (i : Nat) :
    Nat.pow 2 i * Binary64.unitsOfOne = Nat.pow 2 (i + 1074) := by
  obtain ⟨e, he, hunits⟩ := exists_unitsOfOne_eq
  rw [hunits, ← natPow_two_add, he]

theorem unitsOfOne_pos : 0 < Binary64.unitsOfOne := by
  obtain ⟨e, -, hunits⟩ := exists_unitsOfOne_eq
  rw [hunits]
  exact natPow_two_pos e

/-- Rounding to a whole number goes up by one at the most. -/
theorem halfEven_le (num den : Nat) : halfEven num den ≤ num / den + 1 := by
  rw [halfEven]
  split
  · omega
  · split <;> omega

/-- The step of a quotient leaves fifty-three binary digits of it. -/
theorem div_pow_stepAt_lt (q : Nat) : q / Nat.pow 2 (stepAt q) < Nat.pow 2 53 := by
  rw [Nat.div_lt_iff_lt_mul (natPow_two_pos _)]
  have hlog : q < Nat.pow 2 (q.log2 + 1) := Nat.lt_log2_self
  have hexponent : q.log2 + 1 ≤ 53 + stepAt q := by
    rw [stepAt]
    omega
  have hpow : Nat.pow 2 (q.log2 + 1) ≤ Nat.pow 2 (53 + stepAt q) :=
    Nat.pow_le_pow_right (by decide) hexponent
  exact Nat.lt_of_lt_of_le hlog (Nat.le_trans hpow (Nat.le_of_eq (natPow_two_add 53 _)))

/-- The step of a quotient below a power of two. -/
theorem stepAt_le {q k : Nat} (h : q < Nat.pow 2 k) : stepAt q ≤ k - 53 := by
  rw [stepAt]
  by_cases hq : q = 0
  · have hlog : Nat.log2 0 = 0 := by decide
    rw [hq, hlog]
    omega
  · have hlog : q.log2 < k := (Nat.log2_lt hq).mpr h
    omega

namespace Magnitude

/-- A quotient that is not too great is rounded to a finite magnitude. -/
theorem isFinite_nearest {num den k : Nat} (hk : k ≤ 2097) (h : num / den < Nat.pow 2 k) :
    (nearest num den).isFinite = true := by
  have hplace : (nearest num den).place =
      min (stepAt (num / den) * blockLength
        + halfEven num (den * Nat.pow 2 (stepAt (num / den)))) infinityPlace := rfl
  have hinfinity : infinityPlace = 2047 * blockLength := rfl
  have hblock : 0 < blockLength := by decide
  have hstep : stepAt (num / den) ≤ 2044 := Nat.le_trans (stepAt_le h) (by omega)
  have hblocks : stepAt (num / den) * blockLength ≤ 2044 * blockLength :=
    Nat.mul_le_mul_right _ hstep
  have hdigits : num / (den * Nat.pow 2 (stepAt (num / den))) < 2 * blockLength := by
    rw [← Nat.div_div_eq_div_mul]
    exact Nat.lt_of_lt_of_eq (div_pow_stepAt_lt _) (by decide)
  have hrounded := halfEven_le num (den * Nat.pow 2 (stepAt (num / den)))
  rw [isFinite, decide_eq_true_eq, hplace]
  omega

/-- A magnitude in the first blocks has a number of units that fits in as many binary digits as there
are blocks, and in fifty-one more. -/
theorem units_lt_of_place_lt {m : Magnitude} {k : Nat} (h : m.place < (k + 2) * blockLength) :
    m.units < Nat.pow 2 (53 + k) := by
  have hblock : 0 < blockLength := by decide
  have hdigits : Nat.pow 2 53 = 2 * blockLength := by decide
  have hpos := natPow_two_pos k
  rw [units, unitsAt, natPow_two_add]
  split
  · next hlt =>
    have hone : Nat.pow 2 53 * 1 ≤ Nat.pow 2 53 * Nat.pow 2 k := Nat.mul_le_mul_left _ hpos
    omega
  · have hindex : m.place / blockLength - 1 ≤ k := by
      have hdiv := (Nat.div_lt_iff_lt_mul hblock).mpr h
      omega
    have hwithin : blockLength + m.place % blockLength < Nat.pow 2 53 := by
      have hmod := Nat.mod_lt m.place hblock
      omega
    have hpow : Nat.pow 2 (m.place / blockLength - 1) ≤ Nat.pow 2 k :=
      Nat.pow_le_pow_right (by decide) hindex
    calc (blockLength + m.place % blockLength) * Nat.pow 2 (m.place / blockLength - 1)
        ≤ (blockLength + m.place % blockLength) * Nat.pow 2 k := Nat.mul_le_mul_left _ hpow
      _ < Nat.pow 2 53 * Nat.pow 2 k := Nat.mul_lt_mul_of_pos_right hwithin hpos

end Magnitude

/-- A natural number that is not too great is rounded to a finite number. -/
theorem Binary64.isFinite_ofNat {n k : Nat} (hk : k ≤ 1023) (h : n < Nat.pow 2 k) :
    (ofNat n).isFinite = true := by
  have hquotient : n * unitsOfOne / 1 < Nat.pow 2 (k + 1074) := by
    rw [Nat.div_one, ← natPow_two_mul_unitsOfOne]
    exact Nat.mul_lt_mul_of_pos_right h unitsOfOne_pos
  exact Magnitude.isFinite_nearest (by omega) hquotient

end BenchCompare
