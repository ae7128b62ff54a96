import BenchCompare.Proofs.Binary64.Monotone
import Mathlib.Tactic.FieldSimp
import Mathlib.Tactic.Linarith
import Mathlib.Tactic.NormNum
import Mathlib.Tactic.Positivity
import Mathlib.Tactic.Ring

/-!
# The error of rounding

Rounding to a whole number is off by one half at the most (`abs_halfEven_sub_le`).  The steps between
magnitudes grow with the magnitudes, so rounding to a magnitude is off by a fixed part of the number
(`Magnitude.abs_units_nearest_sub_le`), as long as the result is finite and there are enough units in
it.  All numbers around one are such numbers (`Magnitude.isNear_nearest`), which bounds the error of
quotients (`Binary64.exists_isNear_ofRatio`, `Binary64.exists_isNear_div`) and of products
(`Binary64.exists_isNear_mul`).

A whole number that is not too great is met exactly (`Magnitude.value_nearest_whole`), and a number
that is off from a whole number by less than one half is still counted as that number
(`Binary64.toCount_eq`).  So the errors of a quotient and of a product after it do not show in a count
(`Binary64.toCount_mul_ofNat`), whether the quotient was read (`Binary64.toCount_ofRatio_mul`) or
computed (`Binary64.toCount_div_mul_ofNat`).
-/

namespace BenchCompare

/-! ### Whole numbers -/

/-- Rounding to a whole number is off by one half at the most, without quotients. -/
theorem two_mul_halfEven_mul_le (num : Nat) {den : Nat} (hden : 0 < den) :
    2 * (halfEven num den * den) ≤ 2 * num + den ∧ 2 * num ≤ 2 * (halfEven num den * den) + den := by
  have hdivision : num / den * den + num % den = num := Nat.div_add_mod' num den
  have hremainder : num % den < den := Nat.mod_lt num hden
  unfold halfEven
  generalize num / den = quotient at hdivision ⊢
  generalize num % den = remainder at hdivision hremainder ⊢
  dsimp only
  split
  · omega
  · split
    · rw [Nat.add_mul, Nat.one_mul]
      omega
    · rcases Nat.mod_two_eq_zero_or_one quotient with heven | hodd
      · rw [heven, Nat.add_zero]
        omega
      · rw [hodd, Nat.add_mul, Nat.one_mul]
        omega

/-- Rounding to a whole number is off by one half at the most. -/
theorem abs_halfEven_sub_le (num : Nat) {den : Nat} (hden : 0 < den) :
    |(halfEven num den : ℚ) - num / den| ≤ 1 / 2 := by
  have hpos : (0 : ℚ) < den := Nat.cast_pos.mpr hden
  obtain ⟨hhigh, hlow⟩ := two_mul_halfEven_mul_le num hden
  have hhigh' : 2 * ((halfEven num den : ℚ) * den) ≤ 2 * num + den := by exact_mod_cast hhigh
  have hlow' : 2 * (num : ℚ) ≤ 2 * ((halfEven num den : ℚ) * den) + den := by exact_mod_cast hlow
  have hbelow : (num : ℚ) / den ≤ halfEven num den + 1 / 2 := by
    rw [div_le_iff₀ hpos]
    linarith
  have habove : (halfEven num den : ℚ) - 1 / 2 ≤ num / den := by
    rw [le_div_iff₀ hpos]
    linarith
  rw [abs_le]
  constructor <;> linarith

/-- The greatest error of rounding, as a part of the number that is rounded. -/
def roundoff : ℚ := 1 / (2 * blockLength)

theorem cast_blockLength : (blockLength : ℚ) = 4503599627370496 := by
  have hblock : blockLength = 4503599627370496 := by decide
  rw [hblock]
  norm_num

theorem roundoff_eq : roundoff = 1 / 9007199254740992 := by
  unfold roundoff
  rw [cast_blockLength]
  norm_num

namespace Magnitude

/-! ### Units -/

/-- The units at a place that is a number of steps behind the blocks before it. -/
theorem unitsAt_add {step digits : Nat} (hdigits : digits ≤ 2 * blockLength)
    (hfull : 0 < step → blockLength ≤ digits) :
    unitsAt (step * blockLength + digits) = digits * Nat.pow 2 step := by
  have hblock : 0 < blockLength := by decide
  unfold unitsAt
  rcases Nat.lt_or_ge digits blockLength with hlt | hge
  · have hstep : step = 0 := by
      rcases Nat.eq_zero_or_pos step with hzero | hpos
      · exact hzero
      · exact absurd (hfull hpos) (Nat.not_le_of_lt hlt)
    rw [hstep, Nat.zero_mul, Nat.zero_add, if_pos hlt]
    exact (Nat.mul_one digits).symm
  · obtain ⟨within, rfl⟩ := Nat.exists_eq_add_of_le hge
    have hplace : step * blockLength + (blockLength + within) = (step + 1) * blockLength + within := by
      rw [Nat.add_mul, Nat.one_mul, Nat.add_assoc]
    rw [hplace, if_neg (by rw [Nat.add_mul]; omega)]
    rcases Nat.lt_or_ge within blockLength with hwithin | hend
    · rw [Nat.add_comm _ within, Nat.add_mul_mod_self_right, Nat.mod_eq_of_lt hwithin,
        Nat.add_mul_div_right _ _ hblock, Nat.div_eq_of_lt hwithin, Nat.zero_add, Nat.add_sub_cancel]
    · -- The end of a block is the start of the next one, where the step is twice as great.
      obtain rfl : within = blockLength := by omega
      have hnext : (step + 1) * blockLength + blockLength = (step + 2) * blockLength := by
        rw [Nat.add_mul step 2, Nat.add_mul step 1]
        omega
      rw [hnext, Nat.mul_mod_left, Nat.mul_div_cancel _ hblock, Nat.add_zero,
        show step + 2 - 1 = 1 + step by omega, natPow_two_add, ← Nat.mul_assoc]
      congr 1

/-- The units of a finite magnitude that was rounded to. -/
theorem units_nearest {num den : Nat} (hfinite : (nearest num den).isFinite = true) :
    (nearest num den).units =
      halfEven num (den * Nat.pow 2 (stepAt (num / den))) * Nat.pow 2 (stepAt (num / den)) := by
  have hplace := place_nearest num den
  have hlt : (nearest num den).place < infinityPlace := of_decide_eq_true hfinite
  have hfull : 0 < stepAt (num / den) →
      blockLength ≤ halfEven num (den * Nat.pow 2 (stepAt (num / den))) := by
    intro hstep
    exact Nat.le_trans (blockLength_le_div num den hstep) (le_halfEven _ _)
  rw [Nat.min_def] at hplace
  split at hplace
  · unfold units
    rw [hplace]
    exact unitsAt_add (halfEven_le_two_blocks num den) hfull
  · omega

/-- A quotient of at least one block of units has a full block of steps. -/
theorem blockLength_mul_le {num den : Nat} (hden : 0 < den) (hlow : blockLength * den ≤ num) :
    blockLength * (den * Nat.pow 2 (stepAt (num / den))) ≤ num := by
  rcases Nat.eq_zero_or_pos (stepAt (num / den)) with hzero | hpos
  · rw [hzero, show Nat.pow 2 0 = 1 from rfl, Nat.mul_one]
    exact hlow
  · have hscale : 0 < den * Nat.pow 2 (stepAt (num / den)) := Nat.mul_pos hden (natPow_two_pos _)
    exact (Nat.le_div_iff_mul_le hscale).mp (blockLength_le_div num den hpos)

/-- **The error of rounding** is a fixed part of the number, at the most. -/
theorem abs_units_nearest_sub_le {num den : Nat} (hden : 0 < den) (hlow : blockLength * den ≤ num)
    (hfinite : (nearest num den).isFinite = true) :
    |((nearest num den).units : ℚ) - num / den| ≤ num / den * roundoff := by
  have hhalf := abs_halfEven_sub_le num
    (Nat.mul_pos hden (natPow_two_pos (stepAt (num / den))))
  have hblock := blockLength_mul_le hden hlow
  have hstep := natPow_two_pos (stepAt (num / den))
  rw [units_nearest hfinite]
  generalize halfEven num (den * Nat.pow 2 (stepAt (num / den))) = digits at hhalf ⊢
  generalize Nat.pow 2 (stepAt (num / den)) = step at hhalf hblock hstep ⊢
  have hdenPos : (0 : ℚ) < den := Nat.cast_pos.mpr hden
  have hstepPos : (0 : ℚ) < step := Nat.cast_pos.mpr hstep
  have hblockPos : (0 : ℚ) < blockLength := by
    rw [cast_blockLength]
    norm_num
  have hsteps : (step : ℚ) ≤ num / den / blockLength := by
    have hcast : (blockLength : ℚ) * (den * step) ≤ num := by exact_mod_cast hblock
    rw [le_div_iff₀ hblockPos, le_div_iff₀ hdenPos]
    linarith
  have hscaled : ((digits * step : Nat) : ℚ) - num / den =
      ((digits : ℚ) - num / (den * step : Nat)) * step := by
    push_cast
    field_simp
  calc |((digits * step : Nat) : ℚ) - num / den|
      = |(digits : ℚ) - num / (den * step : Nat)| * step := by
        rw [hscaled, abs_mul, abs_of_pos hstepPos]
    _ ≤ 1 / 2 * step := mul_le_mul_of_nonneg_right hhalf hstepPos.le
    _ ≤ 1 / 2 * (num / den / blockLength) := by linarith
    _ = num / den * roundoff := by
        unfold roundoff
        field_simp

/-! ### Values -/

/-- The number that a magnitude stands for; infinity counts as the next power of two. -/
def value (m : Magnitude) : ℚ :=
  m.units / Binary64.unitsOfOne

theorem cast_unitsOfOne_pos : (0 : ℚ) < Binary64.unitsOfOne :=
  Nat.cast_pos.mpr unitsOfOne_pos

theorem value_zero : zero.value = 0 := by
  rw [value, units_zero, Nat.cast_zero, zero_div]

/-- A magnitude that stands for a number above zero is above zero. -/
theorem place_pos_of_value_pos {m : Magnitude} (h : 0 < m.value) : 0 < m.place := by
  rw [Nat.pos_iff_ne_zero]
  intro hplace
  rw [eq_of_place_eq (n := zero) hplace, value_zero] at h
  exact lt_irrefl 0 h

/-- A finite magnitude that is off from a number by the greatest error of rounding at the most. -/
structure IsNear (m : Magnitude) (t : ℚ) : Prop where
  isFinite : m.isFinite = true
  abs_sub_le : |m.value - t| ≤ t * roundoff

/-- A number is around one if it is neither too small nor too great for rounding to be exact up to a
fixed part of the number. -/
def IsAroundOne (t : ℚ) : Prop :=
  1 / 2 ^ 64 ≤ t ∧ t ≤ 2 ^ 64

/-- The quotient of a whole number by a scale is around one, if both are not too great. -/
theorem isAroundOne_div {x scale : Nat} (hxpos : 0 < x) (hx : x < Nat.pow 2 51)
    (hpos : 0 < scale) (hscale : scale < Nat.pow 2 53) : IsAroundOne ((x : ℚ) / scale) := by
  have hscalePos : (0 : ℚ) < scale := Nat.cast_pos.mpr hpos
  have hlow : (1 : ℚ) ≤ x := by exact_mod_cast hxpos
  have hhigh : (x : ℚ) ≤ 2 ^ 51 := by exact_mod_cast hx.le
  have hscaleLow : (1 : ℚ) ≤ scale := by exact_mod_cast hpos
  have hscaleHigh : (scale : ℚ) ≤ 2 ^ 53 := by exact_mod_cast hscale.le
  constructor
  · rw [le_div_iff₀ hscalePos]
    linarith
  · rw [div_le_iff₀ hscalePos]
    linarith

/-- A quotient that is a number around one times a scale, with its bounds in natural numbers. -/
theorem IsAroundOne.bounds {num den scale : Nat} {t : ℚ} (ht : IsAroundOne t) (hden : 0 < den)
    (hquotient : (num : ℚ) / den = t * scale) :
    scale * den ≤ num * Nat.pow 2 64 ∧ num ≤ Nat.pow 2 64 * scale * den := by
  have hdenPos : (0 : ℚ) < den := Nat.cast_pos.mpr hden
  have hnum : (num : ℚ) = t * scale * den := (div_eq_iff hdenPos.ne').mp hquotient
  have hpow : ((Nat.pow 2 64 : Nat) : ℚ) = 2 ^ 64 := by norm_num
  obtain ⟨hlow, hhigh⟩ := ht
  constructor
  · have hcast : (scale : ℚ) * den ≤ num * (Nat.pow 2 64 : Nat) := by
      calc (scale : ℚ) * den = 1 / 2 ^ 64 * (scale * den) * 2 ^ 64 := by ring
        _ ≤ t * (scale * den) * 2 ^ 64 := by gcongr
        _ = num * (Nat.pow 2 64 : Nat) := by
          rw [hnum, hpow]
          ring
    exact_mod_cast hcast
  · have hcast : (num : ℚ) ≤ (Nat.pow 2 64 : Nat) * scale * den := by
      rw [hnum, hpow]
      gcongr
    exact_mod_cast hcast

/-- The error of rounding, in numbers instead of units. -/
theorem abs_value_nearest_sub_le {num den : Nat} {t : ℚ} (hden : 0 < den)
    (hquotient : (num : ℚ) / den = t * Binary64.unitsOfOne) (hlow : blockLength * den ≤ num)
    (hfinite : (nearest num den).isFinite = true) :
    |(nearest num den).value - t| ≤ t * roundoff := by
  have hone := cast_unitsOfOne_pos
  have herror := abs_units_nearest_sub_le hden hlow hfinite
  rw [hquotient] at herror
  unfold value
  rw [div_sub' hone.ne', mul_comm _ t, abs_div, abs_of_pos hone, div_le_iff₀ hone]
  linarith

/-- A number around one is rounded to a magnitude near it. -/
theorem isNear_nearest {num den : Nat} {t : ℚ} (hden : 0 < den)
    (hquotient : (num : ℚ) / den = t * Binary64.unitsOfOne) (ht : IsAroundOne t) :
    IsNear (nearest num den) t := by
  obtain ⟨hlow, hhigh⟩ := ht.bounds hden hquotient
  obtain ⟨e, he, hunits⟩ := exists_unitsOfOne_eq
  have hblock : blockLength * den ≤ num := by
    refine Nat.le_of_mul_le_mul_right ?_ (natPow_two_pos 64)
    calc blockLength * den * Nat.pow 2 64
        = Nat.pow 2 (52 + 64) * den := by
          rw [natPow_two_add, Nat.mul_right_comm]
          rfl
      _ ≤ Nat.pow 2 e * den := by
          exact Nat.mul_le_mul_right _ (Nat.pow_le_pow_right (by decide) (by omega))
      _ = Binary64.unitsOfOne * den := by rw [hunits]
      _ ≤ num * Nat.pow 2 64 := hlow
  have hfinite : (nearest num den).isFinite = true := by
    refine isFinite_nearest (k := 65 + e) (by omega) ?_
    rw [Nat.div_lt_iff_lt_mul hden]
    refine Nat.lt_of_le_of_lt hhigh (Nat.mul_lt_mul_of_pos_right ?_ hden)
    rw [hunits, natPow_two_add]
    exact Nat.mul_lt_mul_of_pos_right (by decide) (natPow_two_pos e)
  exact ⟨hfinite, abs_value_nearest_sub_le hden hquotient hblock hfinite⟩

/-- Equal quotients are rounded to the same magnitude. -/
theorem nearest_congr {a b c d : Nat} (hb : 0 < b) (hd : 0 < d) (h : a * d = c * b) :
    nearest a b = nearest c d :=
  eq_of_place_eq (Nat.le_antisymm (nearest_place_le hb hd h.le) (nearest_place_le hd hb h.ge))

/-- A whole number of at most fifty-three binary digits is met exactly. -/
theorem value_nearest_whole {n : Nat} (h : n < Nat.pow 2 53) :
    (nearest (n * Binary64.unitsOfOne) 1).isFinite = true
      ∧ (nearest (n * Binary64.unitsOfOne) 1).value = n := by
  obtain ⟨e, he, hunits⟩ := exists_unitsOfOne_eq
  have hbound : n * Binary64.unitsOfOne / 1 < Nat.pow 2 (53 + e) := by
    rw [Nat.div_one, hunits, natPow_two_add]
    exact Nat.mul_lt_mul_of_pos_right h (natPow_two_pos e)
  have hfinite := isFinite_nearest (by omega) hbound
  have hstep : stepAt (n * Binary64.unitsOfOne / 1) ≤ e := by
    have hle := stepAt_le hbound
    omega
  have hunitsEq := units_nearest hfinite
  generalize nearest (n * Binary64.unitsOfOne) 1 = m at hfinite hunitsEq ⊢
  generalize stepAt (n * Binary64.unitsOfOne / 1) = step at hstep hunitsEq
  obtain ⟨rest, hrest⟩ := Nat.exists_eq_add_of_le hstep
  have hmultiple : n * Binary64.unitsOfOne = n * Nat.pow 2 rest * (1 * Nat.pow 2 step) := by
    rw [Nat.one_mul, Nat.mul_assoc, ← natPow_two_add, Nat.add_comm rest, ← hrest, hunits]
  have hexact : m.units = n * Binary64.unitsOfOne := by
    rw [hunitsEq, hmultiple, halfEven_mul _ (Nat.mul_pos Nat.one_pos (natPow_two_pos step)),
      Nat.one_mul]
  refine ⟨hfinite, ?_⟩
  unfold value
  rw [hexact, Nat.cast_mul, mul_div_cancel_right₀ _ cast_unitsOfOne_pos.ne']

end Magnitude

/-! ### Arithmetic -/

namespace Binary64

/-- The error of a quotient. -/
theorem exists_isNear_ofRatio {num den : Nat} (hden : 0 < den)
    (h : Magnitude.IsAroundOne ((num : ℚ) / den)) :
    ∃ m : Magnitude, ofRatio num den = number false m ∧ m.IsNear ((num : ℚ) / den) := by
  refine ⟨_, rfl, Magnitude.isNear_nearest hden ?_ h⟩
  rw [Nat.cast_mul, mul_div_right_comm]

/-- The error of a quotient of numbers. -/
theorem exists_isNear_div {m n : Magnitude} (hm : m.isFinite = true) (hn : n.isFinite = true)
    (hpos : 0 < n.place) (h : Magnitude.IsAroundOne (m.value / n.value)) :
    ∃ q : Magnitude, (number false m).div (number false n) = number false q
      ∧ q.IsNear (m.value / n.value) := by
  have hunits := Magnitude.units_pos_of_place_pos hpos
  refine ⟨_, div_of_isFinite hm hn hpos, Magnitude.isNear_nearest hunits ?_ h⟩
  have hone := Magnitude.cast_unitsOfOne_pos
  unfold Magnitude.value
  push_cast
  field_simp

/-- The error of a product. -/
theorem exists_isNear_mul {m n : Magnitude} (hm : m.isFinite = true) (hn : n.isFinite = true)
    (h : Magnitude.IsAroundOne (m.value * n.value)) :
    ∃ p : Magnitude, (number false m).mul (number false n) = number false p
      ∧ p.IsNear (m.value * n.value) := by
  refine ⟨_, mul_of_isFinite hm hn, Magnitude.isNear_nearest unitsOfOne_pos ?_ h⟩
  have hone := Magnitude.cast_unitsOfOne_pos
  unfold Magnitude.value
  push_cast
  field_simp

/-- A number that is off from a whole number by less than one half is counted as that number. -/
theorem toCount_eq {m : Magnitude} {x : Nat} (hx : x < UInt64.size) (h : |m.value - x| < 1 / 2) :
    (number false m).toCount = UInt64.ofNat x := by
  have hone := Magnitude.cast_unitsOfOne_pos
  obtain ⟨hlow, hhigh⟩ := abs_lt.mp h
  unfold Magnitude.value at hlow hhigh
  have hhalfUp : halfUp m.units unitsOfOne = x := by
    have hbelow : x * (2 * unitsOfOne) ≤ 2 * m.units + unitsOfOne := by
      have hcast : ((x : ℚ) - 1 / 2) * unitsOfOne ≤ m.units := by
        rw [← le_div_iff₀ hone]
        linarith
      have hdouble : (x : ℚ) * (2 * unitsOfOne) ≤ 2 * m.units + unitsOfOne := by linarith
      exact_mod_cast hdouble
    have habove : 2 * m.units + unitsOfOne < (x + 1) * (2 * unitsOfOne) := by
      have hcast : (m.units : ℚ) < (x + 1 / 2) * unitsOfOne := by
        rw [← div_lt_iff₀ hone]
        linarith
      have hdouble : 2 * (m.units : ℚ) + unitsOfOne < (x + 1) * (2 * unitsOfOne) := by linarith
      exact_mod_cast hdouble
    exact Nat.div_eq_of_lt_le hbelow habove
  change UInt64.ofNat (min (halfUp m.units unitsOfOne) (UInt64.size - 1)) = UInt64.ofNat x
  rw [hhalfUp, Nat.min_eq_left (Nat.le_sub_one_of_lt hx)]

/-- **The error of a product is rounded away.**  If a number is near a quotient of a whole number by a
scale, then the product by the scale is counted as the whole number. -/
theorem toCount_mul_ofNat {m : Magnitude} {t : ℚ} {scale x : Nat} (hnear : m.IsNear t)
    (ht : t * scale = x) (hscale : scale < Nat.pow 2 53) (hpos : 0 < x) (hx : x < Nat.pow 2 51) :
    ((number false m).mul (ofNat scale)).toCount = UInt64.ofNat x := by
  obtain ⟨hfinite, hvalue⟩ := Magnitude.value_nearest_whole hscale
  have hlow : (1 : ℚ) ≤ x := by exact_mod_cast hpos
  have hhigh : (x : ℚ) ≤ 2251799813685247 := by
    have hle : x ≤ 2251799813685247 := Nat.le_of_lt_succ hx
    exact_mod_cast hle
  -- The error of the first factor grows with the scale, as the number itself does.
  have hfirst : |m.value * scale - x| ≤ x * roundoff := by
    calc |m.value * scale - x| = |m.value - t| * scale := by
          rw [← ht, ← sub_mul, abs_mul, Nat.abs_cast]
      _ ≤ t * roundoff * scale := mul_le_mul_of_nonneg_right hnear.abs_sub_le (Nat.cast_nonneg scale)
      _ = x * roundoff := by
          rw [← ht]
          ring
  rw [roundoff_eq] at hfirst
  obtain ⟨hfirstLow, hfirstHigh⟩ := abs_le.mp hfirst
  have haround : Magnitude.IsAroundOne
      (m.value * (Magnitude.nearest (scale * unitsOfOne) 1).value) := by
    rw [hvalue]
    constructor <;> linarith
  obtain ⟨p, hmul, hproduct⟩ := exists_isNear_mul hnear.isFinite hfinite haround
  have hsecond := hproduct.abs_sub_le
  rw [hvalue, roundoff_eq] at hsecond
  obtain ⟨hsecondLow, hsecondHigh⟩ := abs_le.mp hsecond
  unfold ofNat ofRatio
  rw [hmul]
  refine toCount_eq (Nat.lt_trans hx (by decide)) ?_
  rw [abs_lt]
  constructor <;> linarith

/-- Zero is scaled to itself, and counted as nothing. -/
theorem toCount_zero_mul_ofNat {scale : Nat} (hscale : scale < Nat.pow 2 53) :
    ((number false .zero).mul (ofNat scale)).toCount = 0 := by
  have hfinite := (Magnitude.value_nearest_whole hscale).1
  have hvalue : |Magnitude.zero.value - (0 : Nat)| < 1 / 2 := by
    rw [Magnitude.value_zero, Nat.cast_zero, sub_zero, abs_zero]
    norm_num
  unfold ofNat ofRatio
  rw [mul_of_isFinite (by decide) hfinite, Magnitude.units_zero, Nat.zero_mul,
    Magnitude.nearest_zero unitsOfOne_pos]
  exact toCount_eq (by decide) hvalue

/-- A quotient that makes a whole number with a scale is counted as that number, once it is read and
scaled. -/
theorem toCount_ofRatio_mul {num den scale x : Nat} (hden : 0 < den)
    (h : (num : ℚ) / den * scale = x) (hpos : 0 < scale) (hscale : scale < Nat.pow 2 53)
    (hx : x < Nat.pow 2 51) :
    ((ofRatio num den).mul (ofNat scale)).toCount = UInt64.ofNat x := by
  have hdenPos : (0 : ℚ) < den := Nat.cast_pos.mpr hden
  have hscalePos : (0 : ℚ) < scale := Nat.cast_pos.mpr hpos
  rcases Nat.eq_zero_or_pos x with rfl | hxpos
  · have hnum : num = 0 := by
      rw [Nat.cast_zero, mul_eq_zero, div_eq_zero_iff] at h
      exact_mod_cast (h.resolve_right hscalePos.ne').resolve_right hdenPos.ne'
    rw [hnum, ofRatio, Nat.zero_mul, Magnitude.nearest_zero hden]
    exact toCount_zero_mul_ofNat hscale
  · have hquotient : (num : ℚ) / den = x / scale := (eq_div_iff hscalePos.ne').mpr h
    have haround : Magnitude.IsAroundOne ((num : ℚ) / den) := by
      rw [hquotient]
      exact Magnitude.isAroundOne_div hxpos hx hpos hscale
    obtain ⟨m, hread, hnear⟩ := exists_isNear_ofRatio hden haround
    rw [hread]
    exact toCount_mul_ofNat hnear h hscale hxpos hx

/-- A whole number that is divided by a scale and multiplied by it again is counted as itself. -/
theorem toCount_div_mul_ofNat {x scale : Nat} (hpos : 0 < scale) (hscale : scale < Nat.pow 2 53)
    (hx : x < Nat.pow 2 51) :
    (((ofNat x).div (ofNat scale)).mul (ofNat scale)).toCount = UInt64.ofNat x := by
  have hscalePos : (0 : ℚ) < scale := Nat.cast_pos.mpr hpos
  have hwhole : x < Nat.pow 2 53 := Nat.lt_trans hx (by decide)
  obtain ⟨hfinite, hvalue⟩ := Magnitude.value_nearest_whole hwhole
  obtain ⟨hscaleFinite, hscaleValue⟩ := Magnitude.value_nearest_whole hscale
  have hplace : 0 < (Magnitude.nearest (scale * unitsOfOne) 1).place := by
    refine Magnitude.place_pos_of_value_pos ?_
    rwa [hscaleValue]
  rcases Nat.eq_zero_or_pos x with rfl | hxpos
  · have hzero : (ofNat 0).div (ofNat scale) = number false .zero := by
      have hunits := Magnitude.units_pos_of_place_pos hplace
      rw [ofNat, ofRatio, Nat.zero_mul, Magnitude.nearest_zero Nat.one_pos, ofNat, ofRatio,
        div_of_isFinite (by decide) hscaleFinite hplace, Magnitude.units_zero, Nat.zero_mul,
        Magnitude.nearest_zero hunits]
    rw [hzero]
    exact toCount_zero_mul_ofNat hscale
  · have haround : Magnitude.IsAroundOne ((Magnitude.nearest (x * unitsOfOne) 1).value
        / (Magnitude.nearest (scale * unitsOfOne) 1).value) := by
      rw [hvalue, hscaleValue]
      exact Magnitude.isAroundOne_div hxpos hx hpos hscale
    obtain ⟨q, hquotient, hnear⟩ := exists_isNear_div hfinite hscaleFinite hplace haround
    rw [hvalue, hscaleValue] at hnear
    have hdiv : (ofNat x).div (ofNat scale) = number false q := hquotient
    rw [hdiv]
    exact toCount_mul_ofNat hnear (div_mul_cancel₀ _ hscalePos.ne') hscale hxpos hx

end Binary64

end BenchCompare
