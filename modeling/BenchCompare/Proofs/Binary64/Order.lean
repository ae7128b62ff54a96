import BenchCompare.Binary64.Basic

/-!
# The order of binary64 numbers

All numbers but `nan` are points of a line, on which the two zeros share a point (`point`).  Among
such numbers both comparisons are comparisons of points (`lt_iff_point_lt`, `le_iff_point_le`).
With `nan` every comparison fails, so what is less than something is a number (`ne_nan_of_lt`), and
`lt` and `le` are transitive without any assumption (`lt_trans`, `le_trans`).

Different numbers can share a point only at zero (`eq_of_point_eq`).
-/

namespace BenchCompare.Binary64

/-- The point of a number on the line; `nan` is put at zero. -/
def point (x : Binary64) : Int :=
  x.linePlace?.getD 0

/-- Every number but `nan` has its point as its place on the line. -/
theorem linePlace?_eq_some {x : Binary64} (h : x ≠ .nan) : x.linePlace? = some x.point := by
  cases x with
  | nan => exact absurd rfl h
  | number negative size => rfl

/-- What compares as less is a number, and so is what it is less than. -/
theorem ne_nan_of_lt {x y : Binary64} (h : lt x y = true) : x ≠ .nan ∧ y ≠ .nan := by
  constructor
  · rintro rfl
    cases h
  · rintro rfl
    cases x <;> cases h

/-- What compares as at most another one is a number, and so is the other one. -/
theorem ne_nan_of_le {x y : Binary64} (h : le x y = true) : x ≠ .nan ∧ y ≠ .nan := by
  constructor
  · rintro rfl
    cases h
  · rintro rfl
    cases x <;> cases h

theorem lt_iff_point_lt {x y : Binary64} (hx : x ≠ .nan) (hy : y ≠ .nan) :
    lt x y = true ↔ x.point < y.point := by
  simp only [lt, linePlace?_eq_some hx, linePlace?_eq_some hy, decide_eq_true_eq]

theorem le_iff_point_le {x y : Binary64} (hx : x ≠ .nan) (hy : y ≠ .nan) :
    le x y = true ↔ x.point ≤ y.point := by
  simp only [le, linePlace?_eq_some hx, linePlace?_eq_some hy, decide_eq_true_eq]

/-- Numbers are at most those that are not less than them. -/
theorem le_of_lt_eq_false {x y : Binary64} (hx : x ≠ .nan) (hy : y ≠ .nan)
    (h : lt x y = false) : le y x = true := by
  rw [← Bool.not_eq_true, lt_iff_point_lt hx hy, Int.not_lt] at h
  exact (le_iff_point_le hy hx).mpr h

/-- A number that is less than another one has a smaller point. -/
theorem point_lt_of_lt {x y : Binary64} (h : lt x y = true) : x.point < y.point :=
  (lt_iff_point_lt (ne_nan_of_lt h).1 (ne_nan_of_lt h).2).mp h

/-- A number that is less than another one is at most that one. -/
theorem le_of_lt {x y : Binary64} (h : lt x y = true) : le x y = true :=
  (le_iff_point_le (ne_nan_of_lt h).1 (ne_nan_of_lt h).2).mpr (Int.le_of_lt (point_lt_of_lt h))

theorem lt_trans {x y z : Binary64} (hxy : lt x y = true) (hyz : lt y z = true) :
    lt x z = true := by
  rw [lt_iff_point_lt (ne_nan_of_lt hxy).1 (ne_nan_of_lt hyz).2]
  exact Int.lt_trans (point_lt_of_lt hxy) (point_lt_of_lt hyz)

theorem lt_of_lt_of_le {x y z : Binary64} (hxy : lt x y = true) (hyz : le y z = true) :
    lt x z = true := by
  obtain ⟨hy, hz⟩ := ne_nan_of_le hyz
  rw [lt_iff_point_lt (ne_nan_of_lt hxy).1 hz]
  exact Int.lt_of_lt_of_le (point_lt_of_lt hxy) ((le_iff_point_le hy hz).mp hyz)

theorem le_trans {x y z : Binary64} (hxy : le x y = true) (hyz : le y z = true) :
    le x z = true := by
  obtain ⟨hx, hy⟩ := ne_nan_of_le hxy
  obtain ⟨-, hz⟩ := ne_nan_of_le hyz
  rw [le_iff_point_le hx hz]
  exact Int.le_trans ((le_iff_point_le hx hy).mp hxy) ((le_iff_point_le hy hz).mp hyz)

/-- A number that is finite and not below zero is finite. -/
theorem isFinite_of_isFiniteNonneg {x : Binary64} (h : x.isFiniteNonneg = true) :
    x.isFinite = true := by
  rw [isFiniteNonneg, Bool.and_eq_true] at h
  exact h.1

/-- Two numbers at the same point above zero are the same. -/
theorem eq_of_point_eq {x y : Binary64} (hx : lt zero x = true) (h : x.point = y.point) :
    x = y := by
  have hpos : 0 < x.point := point_lt_of_lt hx
  have hform : ∀ {z : Binary64}, 0 < z.point → ∃ size, z = .number false size := by
    rintro (_ | ⟨negative, size⟩) hz
    · exact absurd hz (by decide)
    · cases negative with
      | false => exact ⟨size, rfl⟩
      | true =>
        have hle : -(size.place : Int) ≤ 0 := by omega
        exact absurd hz (Int.not_lt.mpr hle)
  obtain ⟨⟨p, hp⟩, rfl⟩ := hform hpos
  obtain ⟨⟨q, hq⟩, rfl⟩ := hform (h ▸ hpos)
  have hplace : (p : Int) = q := h
  obtain rfl : p = q := Int.ofNat.inj hplace
  rfl

/-- Two numbers above zero are the same if neither is less than the other. -/
theorem eq_of_not_lt {x y : Binary64} (hx : lt zero x = true) (hy : lt zero y = true)
    (hxy : lt x y = false) (hyx : lt y x = false) : x = y := by
  have hxn := (ne_nan_of_lt hx).2
  have hyn := (ne_nan_of_lt hy).2
  rw [← Bool.not_eq_true, lt_iff_point_lt hxn hyn, Int.not_lt] at hxy
  rw [← Bool.not_eq_true, lt_iff_point_lt hyn hxn, Int.not_lt] at hyx
  exact eq_of_point_eq hx (Int.le_antisymm hyx hxy)

end BenchCompare.Binary64
