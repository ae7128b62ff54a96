import BenchCompare.Proofs.Binary64.Order
import BenchCompare.Proofs.Binary64.Rounding

/-!
# Rounding keeps the order

A smaller quotient is not rounded to a greater magnitude (`Magnitude.nearest_place_le`), and a
magnitude is rounded to itself (`Magnitude.nearest_units_mul`).  Both are read off the place that
rounding gives, which is the number of the block and a whole number of steps within it: quotients of
one block are compared by their steps (`halfEven_le_halfEven`), and those of different blocks by the
bounds of the blocks.

So multiplication and division by a fixed number keep the order of the numbers that are not below
zero (`Binary64.point_mul_le`, `Binary64.point_div_le`), and a number divided by itself is one
(`Binary64.div_self`), without any error.

A number that is not below zero and at most a finite one is finite (`Binary64.isFiniteNonneg_of_le`).
With the order that is kept, a bound for the greatest argument bounds all results.
-/

namespace BenchCompare

/-! ### Whole numbers -/

/-- Rounding to a whole number does not go below the whole part. -/
theorem le_halfEven (num den : Nat) : num / den ≤ halfEven num den := by
  rw [halfEven]
  split
  · exact Nat.le_refl _
  · split <;> omega

/-- A multiple of the denominator is rounded to the factor. -/
theorem halfEven_mul (n : Nat) {den : Nat} (hden : 0 < den) : halfEven (n * den) den = n := by
  rw [halfEven, Nat.mul_div_cancel n hden, Nat.mul_mod_left]
  exact if_pos hden

/-- The whole parts of quotients are in the order of the quotients. -/
theorem div_le_div_of_mul_le {a b c d : Nat} (hb : 0 < b) (hd : 0 < d) (h : a * d ≤ c * b) :
    a / b ≤ c / d := by
  rw [Nat.le_div_iff_mul_le hd]
  refine Nat.le_of_mul_le_mul_right ?_ hb
  calc a / b * d * b = a / b * b * d := Nat.mul_right_comm _ _ _
    _ ≤ a * d := Nat.mul_le_mul_right d (Nat.div_mul_le_self a b)
    _ ≤ c * b := h

/-- Rounding to whole numbers keeps the order of quotients. -/
theorem halfEven_le_halfEven {a b c d : Nat} (hb : 0 < b) (hd : 0 < d) (h : a * d ≤ c * b) :
    halfEven a b ≤ halfEven c d := by
  have hquotients := div_le_div_of_mul_le hb hd h
  rcases Nat.lt_or_eq_of_le hquotients with hlt | heq
  · exact Nat.le_trans (halfEven_le a b) (Nat.le_trans hlt (le_halfEven c d))
  · -- Between the same whole numbers, it is the remainders that are compared.
    have hremainders : a % b * d ≤ c % d * b := by
      have ha : a * d = b * d * (a / b) + a % b * d := by
        conv => lhs; rw [← Nat.div_add_mod a b]
        rw [Nat.add_mul, Nat.mul_right_comm]
      have hc : c * b = b * d * (c / d) + c % d * b := by
        conv => lhs; rw [← Nat.div_add_mod c d]
        rw [Nat.add_mul, Nat.mul_right_comm, Nat.mul_comm d b]
      rw [ha, hc, heq] at h
      exact Nat.le_of_add_le_add_left h
    have hdouble : 2 * (a % b) * d ≤ 2 * (c % d) * b := by
      rw [Nat.mul_assoc, Nat.mul_assoc]
      exact Nat.mul_le_mul_left 2 hremainders
    have hhalf : b ≤ 2 * (a % b) → d ≤ 2 * (c % d) := by
      intro hle
      refine Nat.le_of_mul_le_mul_right ?_ hb
      calc d * b = b * d := Nat.mul_comm d b
        _ ≤ 2 * (a % b) * d := Nat.mul_le_mul_right d hle
        _ ≤ 2 * (c % d) * b := hdouble
    have hmore : b < 2 * (a % b) → d < 2 * (c % d) := by
      intro hlt
      refine Nat.lt_of_mul_lt_mul_right (a := b) ?_
      calc d * b = b * d := Nat.mul_comm d b
        _ < 2 * (a % b) * d := Nat.mul_lt_mul_of_pos_right hlt hd
        _ ≤ 2 * (c % d) * b := hdouble
    simp only [halfEven, heq]
    split
    · split
      · exact Nat.le_refl _
      · split <;> omega
    · split
      · exact Nat.le_of_eq (by rw [if_neg (by omega), if_pos (by omega)])
      · rw [if_neg (by omega)]
        split <;> omega

/-! ### Places -/

/-- The block of a quotient that is not below the first two blocks is full. -/
theorem blockLength_le_div (num den : Nat) (h : 0 < stepAt (num / den)) :
    blockLength ≤ num / (den * Nat.pow 2 (stepAt (num / den))) := by
  rw [← Nat.div_div_eq_div_mul, Nat.le_div_iff_mul_le (natPow_two_pos _)]
  have hstep : stepAt (num / den) = (num / den).log2 - 52 := rfl
  have hne : num / den ≠ 0 := by
    intro hzero
    rw [hzero] at h
    exact absurd h (by decide)
  have hlog : 52 + stepAt (num / den) = (num / den).log2 := by omega
  calc blockLength * Nat.pow 2 (stepAt (num / den))
      = Nat.pow 2 (52 + stepAt (num / den)) := (natPow_two_add 52 _).symm
    _ = Nat.pow 2 (num / den).log2 := by rw [hlog]
    _ ≤ num / den := Nat.log2_self_le hne

/-- A quotient in its own block is rounded to twice the length of a block at the most. -/
theorem halfEven_le_two_blocks (num den : Nat) :
    halfEven num (den * Nat.pow 2 (stepAt (num / den))) ≤ 2 * blockLength := by
  have hdigits : num / (den * Nat.pow 2 (stepAt (num / den))) < 2 * blockLength := by
    rw [← Nat.div_div_eq_div_mul]
    exact Nat.lt_of_lt_of_eq (div_pow_stepAt_lt _) (by decide)
  exact Nat.le_trans (halfEven_le _ _) hdigits

/-- Greater numbers have greater steps. -/
theorem stepAt_le_stepAt {p q : Nat} (h : p ≤ q) : stepAt p ≤ stepAt q := by
  rw [stepAt, stepAt]
  by_cases hp : p = 0
  · rw [hp, show Nat.log2 0 = 0 by decide]
    exact Nat.zero_le _
  · have hq : q ≠ 0 := by omega
    have hlog : p.log2 ≤ q.log2 :=
      (Nat.le_log2 hq).mpr (Nat.le_trans (Nat.log2_self_le hp) h)
    omega

namespace Magnitude

theorem place_nearest (num den : Nat) :
    (nearest num den).place =
      min (stepAt (num / den) * blockLength
        + halfEven num (den * Nat.pow 2 (stepAt (num / den)))) infinityPlace :=
  rfl

/-- Magnitudes are equal if they have the same place. -/
theorem eq_of_place_eq {m n : Magnitude} (h : m.place = n.place) : m = n := by
  obtain ⟨p, hp⟩ := m
  obtain ⟨q, hq⟩ := n
  obtain rfl : p = q := h
  rfl

/-- **Rounding keeps the order** of quotients. -/
theorem nearest_place_le {a b c d : Nat} (hb : 0 < b) (hd : 0 < d) (h : a * d ≤ c * b) :
    (nearest a b).place ≤ (nearest c d).place := by
  have hquotients := div_le_div_of_mul_le hb hd h
  suffices hplaces : stepAt (a / b) * blockLength + halfEven a (b * Nat.pow 2 (stepAt (a / b))) ≤
      stepAt (c / d) * blockLength + halfEven c (d * Nat.pow 2 (stepAt (c / d))) by
    rw [place_nearest, place_nearest]
    exact Nat.le_min.mpr ⟨Nat.le_trans (Nat.min_le_left _ _) hplaces, Nat.min_le_right _ _⟩
  rcases Nat.lt_or_eq_of_le (stepAt_le_stepAt hquotients) with hlt | heq
  · -- A later block begins where the block before it ends, or after that.
    have hlast := halfEven_le_two_blocks a b
    have hfirst := Nat.le_trans (blockLength_le_div c d (by omega))
      (le_halfEven _ _)
    have hblocks : (stepAt (a / b) + 1) * blockLength ≤ stepAt (c / d) * blockLength :=
      Nat.mul_le_mul_right _ hlt
    rw [Nat.add_mul, Nat.one_mul] at hblocks
    omega
  · rw [heq]
    have hpow := natPow_two_pos (stepAt (c / d))
    refine Nat.add_le_add_left (halfEven_le_halfEven (Nat.mul_pos hb hpow) (Nat.mul_pos hd hpow) ?_) _
    rw [← Nat.mul_assoc, ← Nat.mul_assoc]
    exact Nat.mul_le_mul_right _ h

/-- A magnitude is rounded to itself. -/
theorem nearest_units_mul (m : Magnitude) {k : Nat} (hk : 0 < k) : nearest (m.units * k) k = m := by
  have hblock : 0 < blockLength := by decide
  refine eq_of_place_eq ?_
  rw [place_nearest, Nat.mul_div_cancel _ hk]
  have hplace : stepAt m.units * blockLength
      + halfEven (m.units * k) (k * Nat.pow 2 (stepAt m.units)) = m.place := by
    by_cases hlt : m.place < blockLength
    · have hunits : m.units = m.place := if_pos hlt
      have hstep : stepAt m.place = 0 := by
        have := stepAt_le (k := 52) hlt
        omega
      rw [hunits, hstep, show Nat.pow 2 0 = 1 from rfl, Nat.mul_one, halfEven_mul _ hk]
      omega
    · have hunits : m.units =
          (blockLength + m.place % blockLength) * Nat.pow 2 (m.place / blockLength - 1) :=
        if_neg hlt
      have hwithin := Nat.mod_lt m.place hblock
      have hindex : 1 ≤ m.place / blockLength := (Nat.one_le_div_iff hblock).mpr (by omega)
      have hlow : Nat.pow 2 (52 + (m.place / blockLength - 1)) ≤ m.units := by
        rw [hunits, natPow_two_add]
        exact Nat.mul_le_mul_right _ (Nat.le_add_right _ _)
      have hhigh : m.units < Nat.pow 2 (52 + (m.place / blockLength - 1) + 1) := by
        rw [hunits, Nat.add_right_comm, natPow_two_add]
        refine Nat.mul_lt_mul_of_pos_right ?_ (natPow_two_pos _)
        have hdigits : Nat.pow 2 (52 + 1) = 2 * blockLength := by decide
        omega
      have hne : m.units ≠ 0 := Nat.ne_of_gt (Nat.lt_of_lt_of_le (natPow_two_pos _) hlow)
      have hlog : m.units.log2 = 52 + (m.place / blockLength - 1) :=
        (Nat.log2_eq_iff hne).mpr ⟨hlow, hhigh⟩
      have hstep : stepAt m.units = m.place / blockLength - 1 := by
        rw [stepAt, hlog]
        omega
      have hexact : m.units * k = (blockLength + m.place % blockLength)
          * (k * Nat.pow 2 (m.place / blockLength - 1)) := by
        rw [hunits, Nat.mul_assoc, Nat.mul_comm (Nat.pow 2 _) k]
      rw [hstep, hexact, halfEven_mul _ (Nat.mul_pos hk (natPow_two_pos _)), ← Nat.add_assoc,
        ← Nat.succ_mul, Nat.succ_eq_add_one, Nat.sub_add_cancel hindex]
      exact Nat.div_add_mod' m.place blockLength
  rw [hplace]
  exact Nat.min_eq_left m.place_le

/-- Units are in the order of the places. -/
theorem units_le_of_place_le {m n : Magnitude} (h : m.place ≤ n.place) : m.units ≤ n.units := by
  refine Nat.le_of_not_lt fun hlt => ?_
  have hplaces := nearest_place_le (a := n.units * 1) (b := 1) (c := m.units * 1) (d := 1)
    Nat.one_pos Nat.one_pos (by omega)
  rw [nearest_units_mul n Nat.one_pos, nearest_units_mul m Nat.one_pos] at hplaces
  rw [eq_of_place_eq (Nat.le_antisymm h hplaces)] at hlt
  exact Nat.lt_irrefl _ hlt

theorem units_zero : zero.units = 0 := by
  decide

/-- Nothing is rounded to zero. -/
theorem nearest_zero {den : Nat} (hden : 0 < den) : nearest 0 den = zero := by
  have hself := nearest_units_mul zero hden
  rwa [units_zero, Nat.zero_mul] at hself

/-- A magnitude above zero has units. -/
theorem units_pos_of_place_pos {m : Magnitude} (h : 0 < m.place) : 0 < m.units := by
  rw [Nat.pos_iff_ne_zero]
  intro hunits
  have hself := nearest_units_mul m Nat.one_pos
  rw [hunits, Nat.zero_mul, nearest_zero Nat.one_pos] at hself
  rw [← hself] at h
  exact absurd h (by decide)

/-- The magnitude one. -/
def one : Magnitude where
  place := 1023 * blockLength

theorem units_one : one.units = Binary64.unitsOfOne := by
  decide +kernel

end Magnitude

/-! ### Arithmetic -/

namespace Binary64

/-- The magnitude of a number; zero for `nan`. -/
def size : Binary64 → Magnitude
  | .nan => .zero
  | .number _ size => size

theorem zero_le_iff {x : Binary64} (hx : x ≠ .nan) : le zero x = true ↔ 0 ≤ x.point :=
  le_iff_point_le (by decide) hx

/-- A number is finite and not below zero if its point is between zero and infinity. -/
theorem isFiniteNonneg_iff {x : Binary64} :
    x.isFiniteNonneg = true ↔ x ≠ .nan ∧ 0 ≤ x.point ∧ x.point < infinityPlace := by
  cases x with
  | nan => exact ⟨fun h => absurd h (by decide), fun h => absurd rfl h.1⟩
  | number negative m =>
    have hnumber : Binary64.number negative m ≠ .nan := by simp
    have hpoint : (Binary64.number negative m).point =
        if negative then -(m.place : Int) else m.place := rfl
    rw [isFiniteNonneg, Bool.and_eq_true, zero_le_iff hnumber, hpoint]
    have hfinite : (Binary64.number negative m).isFinite = true ↔ m.place < infinityPlace :=
      decide_eq_true_iff
    rw [hfinite]
    have hinfinity : 0 < infinityPlace := by decide
    generalize infinityPlace = top at hinfinity ⊢
    cases negative with
    | false =>
      simp only [Bool.false_eq_true, if_false]
      exact ⟨fun h => ⟨hnumber, h.2, by omega⟩, fun h => ⟨by omega, h.2.1⟩⟩
    | true =>
      simp only [if_true]
      exact ⟨fun h => ⟨hnumber, h.2, by omega⟩, fun h => ⟨by omega, h.2.1⟩⟩

/-- What a number that is finite and not below zero looks like: if it has a sign, it is zero. -/
theorem exists_of_isFiniteNonneg {x : Binary64} (h : x.isFiniteNonneg = true) :
    ∃ negative m, x = .number negative m ∧ m.isFinite = true ∧ (negative = true → m.place = 0) := by
  cases x with
  | nan => cases h
  | number negative m =>
    rw [isFiniteNonneg, Bool.and_eq_true] at h
    refine ⟨negative, m, rfl, h.1, ?_⟩
    rintro rfl
    have hpoint : (0 : Int) ≤ -(m.place : Int) := of_decide_eq_true h.2
    omega

/-- A number above zero has no sign. -/
theorem exists_of_zero_lt {x : Binary64} (h : lt zero x = true) :
    ∃ m : Magnitude, x = .number false m ∧ 0 < m.place := by
  have hpoint := point_lt_of_lt h
  obtain _ | ⟨negative, m⟩ := x
  · exact absurd hpoint (by decide)
  · cases negative with
    | false =>
      have hplace : (0 : Int) < m.place := hpoint
      exact ⟨m, rfl, by omega⟩
    | true =>
      have hplace : (0 : Int) < -(m.place : Int) := hpoint
      omega

/-- A finite number above zero is finite and not below zero. -/
theorem isFiniteNonneg_of_zero_lt {x : Binary64} (h : lt zero x = true)
    (hfinite : x.isFinite = true) : x.isFiniteNonneg = true := by
  rw [isFiniteNonneg, hfinite, le_of_lt h]
  rfl

/-- A number that is not below zero and at most a finite one is finite. -/
theorem isFiniteNonneg_of_le {x y : Binary64} (hzero : le zero x = true) (h : le x y = true)
    (hfinite : y.isFinite = true) : x.isFiniteNonneg = true := by
  obtain ⟨hx, hy⟩ := ne_nan_of_le h
  have hbound : y.isFiniteNonneg = true := by
    rw [isFiniteNonneg, hfinite, le_trans hzero h]
    rfl
  have hlow : 0 ≤ x.point := (zero_le_iff hx).mp hzero
  have hhigh : x.point ≤ y.point := (le_iff_point_le hx hy).mp h
  exact isFiniteNonneg_iff.mpr
    ⟨hx, hlow, Int.lt_of_le_of_lt hhigh (isFiniteNonneg_iff.mp hbound).2.2⟩

/-- A number above zero that is not finite is infinity. -/
theorem eq_infinity_of_zero_lt {x : Binary64} (h : lt zero x = true) (hfinite : x.isFinite = false) :
    x = infinity := by
  obtain ⟨m, rfl, -⟩ := exists_of_zero_lt h
  have hplace : ¬ m.place < infinityPlace := of_decide_eq_false hfinite
  have hlast : m = .infinity :=
    Magnitude.eq_of_place_eq (Nat.le_antisymm m.place_le (Nat.le_of_not_lt hplace))
  rw [hlast]
  rfl

/-- What is not finite and not below zero is below zero, infinity, or no number. -/
theorem isFiniteNonneg_eq_false_iff {x : Binary64} :
    x.isFiniteNonneg = false ↔ lt x zero = true ∨ x = infinity ∨ x = .nan := by
  have hzero : zero ≠ .nan := by decide
  constructor
  · intro h
    by_cases hnan : x = .nan
    · exact .inr (.inr hnan)
    by_cases hbelow : lt x zero = true
    · exact .inl hbelow
    have hle : le zero x = true := le_of_lt_eq_false hnan hzero (Bool.eq_false_iff.mpr hbelow)
    by_cases habove : lt zero x = true
    · have hfinite : x.isFinite = false := by
        rwa [isFiniteNonneg, hle, Bool.and_true] at h
      exact .inr (.inl (eq_infinity_of_zero_lt habove hfinite))
    · -- Neither below nor above zero, it is one of the two zeros.
      have hge : le x zero = true := le_of_lt_eq_false hzero hnan (Bool.eq_false_iff.mpr habove)
      have hnonneg := isFiniteNonneg_of_le hle hge (by decide)
      rw [h] at hnonneg
      cases hnonneg
  · rintro (hbelow | rfl | rfl)
    · rw [← Bool.not_eq_true, isFiniteNonneg_iff]
      rintro ⟨-, hpoint, -⟩
      exact absurd (point_lt_of_lt hbelow) (Int.not_lt.mpr hpoint)
    · decide
    · rfl

/-- The point of a number with a sign that only goes with zero. -/
theorem point_number {negative : Bool} {m : Magnitude} (h : negative = true → m.place = 0) :
    (number negative m).point = m.place := by
  cases negative with
  | false => rfl
  | true =>
    have hpoint : (number true m).point = -(m.place : Int) := rfl
    rw [hpoint, h rfl]
    rfl

/-- A number that is finite and not below zero is put at its magnitude. -/
theorem point_eq_size {x : Binary64} (h : x.isFiniteNonneg = true) : x.point = x.size.place := by
  obtain ⟨negative, m, rfl, -, hsign⟩ := exists_of_isFiniteNonneg h
  exact point_number hsign

/-- The product of a finite number and a finite one without a sign. -/
theorem mul_of_isFinite {negative : Bool} {m n : Magnitude} (hm : m.isFinite = true)
    (hn : n.isFinite = true) :
    (number negative m).mul (number false n) =
      number negative (.nearest (m.units * n.units) unitsOfOne) := by
  simp only [mul, hm, hn, Bool.and_self, if_true, Bool.bne_false]

/-- The quotient of a finite number by a finite one above zero. -/
theorem div_of_isFinite {negative : Bool} {m n : Magnitude} (hm : m.isFinite = true)
    (hn : n.isFinite = true) (hpos : 0 < n.place) :
    (number negative m).div (number false n) =
      number negative (.nearest (m.units * unitsOfOne) n.units) := by
  simp only [div, hm, hn, if_true, Bool.not_true, Bool.false_eq_true, if_false,
    if_neg (Nat.ne_of_gt hpos), Bool.bne_false]

/-- The product with a positive number. -/
theorem point_mul {x c : Binary64} (hx : x.isFiniteNonneg = true) (hc : lt zero c = true)
    (hfinite : c.isFinite = true) :
    x.mul c ≠ .nan
      ∧ (x.mul c).point = (Magnitude.nearest (x.size.units * c.size.units) unitsOfOne).place := by
  obtain ⟨negative, m, rfl, hm, hsign⟩ := exists_of_isFiniteNonneg hx
  obtain ⟨n, rfl, -⟩ := exists_of_zero_lt hc
  have hn : n.isFinite = true := hfinite
  rw [mul_of_isFinite hm hn]
  refine ⟨by simp, point_number fun hnegative => ?_⟩
  have hzero : m = .zero := Magnitude.eq_of_place_eq (hsign hnegative)
  rw [hzero, Magnitude.units_zero, Nat.zero_mul, Magnitude.nearest_zero unitsOfOne_pos]
  rfl

/-- The quotient by a positive number. -/
theorem point_div {x c : Binary64} (hx : x.isFiniteNonneg = true) (hc : lt zero c = true)
    (hfinite : c.isFinite = true) :
    x.div c ≠ .nan
      ∧ (x.div c).point = (Magnitude.nearest (x.size.units * unitsOfOne) c.size.units).place := by
  obtain ⟨negative, m, rfl, hm, hsign⟩ := exists_of_isFiniteNonneg hx
  obtain ⟨n, rfl, hpos⟩ := exists_of_zero_lt hc
  have hn : n.isFinite = true := hfinite
  rw [div_of_isFinite hm hn hpos]
  refine ⟨by simp, point_number fun hnegative => ?_⟩
  have hzero : m = .zero := Magnitude.eq_of_place_eq (hsign hnegative)
  rw [hzero, Magnitude.units_zero, Nat.zero_mul,
    Magnitude.nearest_zero (Magnitude.units_pos_of_place_pos hpos)]
  rfl

section Order

variable {x y c : Binary64}

/-- Magnitudes are compared by their units. -/
theorem units_size_le (hx : x.isFiniteNonneg = true) (hy : y.isFiniteNonneg = true)
    (h : x.point ≤ y.point) : x.size.units ≤ y.size.units := by
  rw [point_eq_size hx, point_eq_size hy] at h
  exact Magnitude.units_le_of_place_le (Int.ofNat_le.mp h)

/-- A positive number has units. -/
theorem units_size_pos (hc : lt zero c = true) : 0 < c.size.units := by
  obtain ⟨m, rfl, hpos⟩ := exists_of_zero_lt hc
  exact Magnitude.units_pos_of_place_pos hpos

/-- **Multiplication keeps the order** of numbers that are not below zero. -/
theorem point_mul_le (hx : x.isFiniteNonneg = true) (hy : y.isFiniteNonneg = true)
    (hc : lt zero c = true) (hfinite : c.isFinite = true) (h : x.point ≤ y.point) :
    (x.mul c).point ≤ (y.mul c).point := by
  rw [(point_mul hx hc hfinite).2, (point_mul hy hc hfinite).2, Int.ofNat_le]
  refine Magnitude.nearest_place_le unitsOfOne_pos unitsOfOne_pos ?_
  exact Nat.mul_le_mul_right _ (Nat.mul_le_mul_right _ (units_size_le hx hy h))

/-- **Division keeps the order** of numbers that are not below zero. -/
theorem point_div_le (hx : x.isFiniteNonneg = true) (hy : y.isFiniteNonneg = true)
    (hc : lt zero c = true) (hfinite : c.isFinite = true) (h : x.point ≤ y.point) :
    (x.div c).point ≤ (y.div c).point := by
  rw [(point_div hx hc hfinite).2, (point_div hy hc hfinite).2, Int.ofNat_le]
  refine Magnitude.nearest_place_le (units_size_pos hc) (units_size_pos hc) ?_
  exact Nat.mul_le_mul_right _ (Nat.mul_le_mul_right _ (units_size_le hx hy h))

theorem mul_le_mul (hx : x.isFiniteNonneg = true) (hy : y.isFiniteNonneg = true)
    (hc : lt zero c = true) (hfinite : c.isFinite = true) (h : le x y = true) :
    le (x.mul c) (y.mul c) = true := by
  have hpoint : x.point ≤ y.point :=
    (le_iff_point_le (ne_nan_of_le h).1 (ne_nan_of_le h).2).mp h
  have hproducts := point_mul_le hx hy hc hfinite hpoint
  exact (le_iff_point_le (point_mul hx hc hfinite).1 (point_mul hy hc hfinite).1).mpr hproducts

theorem div_le_div (hx : x.isFiniteNonneg = true) (hy : y.isFiniteNonneg = true)
    (hc : lt zero c = true) (hfinite : c.isFinite = true) (h : le x y = true) :
    le (x.div c) (y.div c) = true := by
  have hpoint : x.point ≤ y.point :=
    (le_iff_point_le (ne_nan_of_le h).1 (ne_nan_of_le h).2).mp h
  have hquotients := point_div_le hx hy hc hfinite hpoint
  exact (le_iff_point_le (point_div hx hc hfinite).1 (point_div hy hc hfinite).1).mpr hquotients

/-- A quotient of numbers that are not below zero is not below zero. -/
theorem zero_le_div (hx : x.isFiniteNonneg = true) (hc : lt zero c = true)
    (hfinite : c.isFinite = true) : le zero (x.div c) = true := by
  obtain ⟨hnumber, hpoint⟩ := point_div hx hc hfinite
  rw [zero_le_iff hnumber, hpoint]
  exact Int.natCast_nonneg _

end Order

theorem ofNat_ne_nan (n : Nat) : ofNat n ≠ .nan := by
  intro h
  cases h

/-- Natural numbers are rounded in their order. -/
theorem ofNat_le_ofNat {m n : Nat} (h : m ≤ n) : le (ofNat m) (ofNat n) = true := by
  refine (le_iff_point_le (ofNat_ne_nan m) (ofNat_ne_nan n)).mpr (Int.ofNat_le.mpr ?_)
  refine Magnitude.nearest_place_le Nat.one_pos Nat.one_pos ?_
  exact Nat.mul_le_mul_right 1 (Nat.mul_le_mul_right unitsOfOne h)

/-- A natural number that is not too great is rounded to a number that is finite and not below zero. -/
theorem isFiniteNonneg_ofNat {n k : Nat} (hk : k ≤ 1023) (h : n < Nat.pow 2 k) :
    (ofNat n).isFiniteNonneg = true := by
  have hzero : le zero (ofNat n) = true :=
    (zero_le_iff (ofNat_ne_nan n)).mpr (Int.natCast_nonneg _)
  rw [isFiniteNonneg, isFinite_ofNat hk h, hzero]
  rfl

/-- The number one. -/
theorem ofNat_one : ofNat 1 = number false .one := by
  have hself := Magnitude.nearest_units_mul .one Nat.one_pos
  rw [Magnitude.units_one] at hself
  rw [ofNat, ofRatio, Nat.one_mul, ← hself, Nat.mul_one]

/-- A positive number divided by itself is one. -/
theorem div_self {x : Binary64} (hx : lt zero x = true) (hfinite : x.isFinite = true) :
    x.div x = ofNat 1 := by
  obtain ⟨m, rfl, hpos⟩ := exists_of_zero_lt hx
  have hm : m.isFinite = true := hfinite
  have hunits := Magnitude.nearest_units_mul .one (Magnitude.units_pos_of_place_pos hpos)
  rw [Magnitude.units_one, Nat.mul_comm] at hunits
  rw [div_of_isFinite hm hm hpos, hunits, ofNat_one]

/-- One times a number is that number. -/
theorem one_mul {m : Magnitude} (hfinite : m.isFinite = true) :
    (ofNat 1).mul (number false m) = number false m := by
  have hone : Magnitude.one.isFinite = true := by decide
  have hunits := Magnitude.nearest_units_mul m unitsOfOne_pos
  rw [Nat.mul_comm] at hunits
  simp only [ofNat_one, mul, hone, hfinite, Bool.and_self, if_true, Magnitude.units_one, hunits,
    Bool.bne_false]

theorem mul_comm (x y : Binary64) : x.mul y = y.mul x := by
  cases x with
  | nan => cases y <;> rfl
  | number s a =>
    cases y with
    | nan => rfl
    | number t b =>
      have hsign : (s != t) = (t != s) := bne_comm
      simp only [mul, hsign, Bool.and_comm, Bool.or_comm, Nat.mul_comm]

/-- **A factor of at least one makes no positive number smaller**, also where the product is rounded
to the number itself or beyond the last finite number. -/
theorem le_mul_of_one_le {x c : Binary64} (hx : lt zero x = true) (hc : le (ofNat 1) c = true)
    (hfinite : c.isFinite = true) : le x (x.mul c) = true := by
  have hone : lt zero (ofNat 1) = true ∧ (ofNat 1).isFinite = true := by decide +kernel
  have hcpos : lt zero c = true := lt_of_lt_of_le hone.1 hc
  have hcnonneg := isFiniteNonneg_of_zero_lt hcpos hfinite
  obtain ⟨m, rfl, hm⟩ := exists_of_zero_lt hx
  by_cases hmfinite : m.isFinite = true
  · -- The number is the product with one, which is not beyond the product with the factor.
    have hpoint : (number false m).point ≤ (c.mul (number false m)).point := by
      rw [← congrArg point (one_mul hmfinite)]
      refine point_mul_le (isFiniteNonneg_of_zero_lt hone.1 hone.2) hcnonneg hx hmfinite ?_
      exact (le_iff_point_le (ne_nan_of_le hc).1 (ne_nan_of_le hc).2).mp hc
    rw [mul_comm]
    exact (le_iff_point_le (ne_nan_of_lt hx).2 (point_mul hcnonneg hx hmfinite).1).mpr hpoint
  · -- The number is infinity, and so is the product.
    obtain ⟨n, rfl, hn⟩ := exists_of_zero_lt hcpos
    have hinfinite : (number false m).mul (number false n) = infinity := by
      simp [mul, hmfinite, Nat.ne_of_gt hm, Nat.ne_of_gt hn, infinity]
    rw [hinfinite]
    exact decide_eq_true (Int.ofNat_le.mpr m.place_le)

end Binary64

end BenchCompare
