import BenchCompare.Proofs.Binary64.Order
import Mathlib.Data.List.Induction

/-!
# The greatest of some numbers

A list of numbers is folded to its *peak*: a number above zero that is in the list and than which no
number of the list is greater, or zero if no number of the list is above zero (`Binary64.IsPeak`).
A list has only one peak, so the fold does not depend on the order of the list
(`Binary64.foldl_max_eq_of_perm`).

A number `nan` in the list is passed over, since no comparison with it holds.  A zero with a sign is
passed over too, since the fold begins with the zero without one and no zero is less than another.
-/

namespace BenchCompare.Binary64

/-- A number is the peak of a list: no number of the list is greater, and it is a number of the list
above zero unless it is zero. -/
structure IsPeak (values : List Binary64) (peak : Binary64) : Prop where
  attained : peak = .zero ∨ lt .zero peak = true ∧ peak ∈ values
  upper : ∀ value ∈ values, lt peak value = false

variable {values others : List Binary64} {peak value x y : Binary64}

namespace IsPeak

/-- The greater of a peak and one more number is the peak of the longer list. -/
theorem concat (h : IsPeak values peak) (value : Binary64) :
    IsPeak (values ++ [value]) (peak.max value) := by
  rw [Binary64.max]
  split
  · next hlt =>
    constructor
    · refine .inr ⟨?_, List.mem_append_right _ (List.mem_singleton_self value)⟩
      rcases h.attained with hzero | ⟨hpos, -⟩
      · rwa [hzero] at hlt
      · exact lt_trans hpos hlt
    · intro other hother
      rw [Bool.eq_false_iff]
      intro hgreater
      rcases List.mem_append.mp hother with hother | hother
      · have hupper := h.upper other hother
        rw [lt_trans hlt hgreater] at hupper
        cases hupper
      · rw [List.mem_singleton.mp hother] at hgreater
        exact absurd (point_lt_of_lt hgreater) (Int.lt_irrefl _)
  · next hlt =>
    constructor
    · exact h.attained.imp_right fun ⟨hpos, hmem⟩ => ⟨hpos, List.mem_append_left _ hmem⟩
    · intro other hother
      rcases List.mem_append.mp hother with hother | hother
      · exact h.upper other hother
      · rw [List.mem_singleton.mp hother]
        exact Bool.eq_false_iff.mpr hlt

/-- A list has only one peak. -/
theorem unique (hx : IsPeak values x) (hy : IsPeak values y) : x = y := by
  rcases hx.attained with rfl | ⟨hxpos, hxmem⟩ <;> rcases hy.attained with rfl | ⟨hypos, hymem⟩
  · rfl
  · rw [hx.upper y hymem] at hypos
    cases hypos
  · rw [hy.upper x hxmem] at hxpos
    cases hxpos
  · exact eq_of_not_lt hxpos hypos (hx.upper y hymem) (hy.upper x hxmem)

/-- A peak depends on the members of the list only. -/
theorem of_perm (h : IsPeak others peak) (hperm : others.Perm values) : IsPeak values peak where
  attained := h.attained.imp_right fun ⟨hpos, hmem⟩ => ⟨hpos, hperm.mem_iff.mp hmem⟩
  upper value hvalue := h.upper value (hperm.mem_iff.mpr hvalue)

theorem ne_nan (h : IsPeak values peak) : peak ≠ .nan := by
  rcases h.attained with rfl | ⟨hpos, -⟩
  · nofun
  · exact (ne_nan_of_lt hpos).2

/-- A number of the list is at most the peak. -/
theorem le (h : IsPeak values peak) (hmem : value ∈ values) (hvalue : value ≠ .nan) :
    Binary64.le value peak = true :=
  le_of_lt_eq_false h.ne_nan hvalue (h.upper value hmem)

/-- The peak is above zero exactly if some number of the list is. -/
theorem zero_lt_iff (h : IsPeak values peak) :
    lt .zero peak = true ↔ ∃ value ∈ values, lt .zero value = true := by
  constructor
  · intro hpos
    rcases h.attained with rfl | ⟨-, hmem⟩
    · cases hpos
    · exact ⟨peak, hmem, hpos⟩
  · rintro ⟨value, hmem, hvalue⟩
    exact lt_of_lt_of_le hvalue (h.le hmem (ne_nan_of_lt hvalue).2)

end IsPeak

/-- A list is folded to its peak. -/
theorem isPeak_foldl_max (values : List Binary64) :
    IsPeak values (values.foldl Binary64.max .zero) := by
  induction values using List.reverseRecOn with
  | nil => exact ⟨.inl rfl, List.forall_mem_nil _⟩
  | append_singleton values value ih =>
    rw [List.foldl_append, List.foldl_cons, List.foldl_nil]
    exact ih.concat value

/-- The greatest of some numbers does not depend on their order. -/
theorem foldl_max_eq_of_perm (h : others.Perm values) :
    others.foldl Binary64.max .zero = values.foldl Binary64.max .zero :=
  ((isPeak_foldl_max others).of_perm h).unique (isPeak_foldl_max values)

end BenchCompare.Binary64
