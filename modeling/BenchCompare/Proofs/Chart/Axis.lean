import BenchCompare.Proofs.Binary64.Greatest
import BenchCompare.Proofs.Binary64.Monotone
import BenchCompare.Proofs.Chart.Refusals
import Mathlib.Data.List.Perm.Basic

/-!
# The axis covers the bars

The vertical axis of a panel begins at zero and ends above it, and no bar is longer than the axis
(`Panel.yMax_of_collect`).  The end of the axis is the greatest value with some room added, or one if
no value is above zero.  The room is a factor, so it may be rounded away where the values are small,
and beyond the last finite number where they are large; what counts is that a factor of at least one
makes no positive number smaller (`Binary64.le_mul_of_one_le`).

The runs may be taken in any order.  The values of a panel are then in another order too
(`Panel.exists_collect_of_perm`), but the greatest of them is the same.
-/

namespace BenchCompare.Panel

/-! ### The end of the axis -/

theorem one_le_headroom : Binary64.le (.ofNat 1) headroom = true := by
  decide +kernel

theorem isFinite_headroom : headroom.isFinite = true := by
  decide +kernel

/-- The axis for a greatest value is at least as long as that value. -/
theorem le_axisEnd {greatest : Binary64} (h : greatest ≠ .nan) :
    Binary64.le greatest (axisEnd greatest) = true := by
  rw [axisEnd]
  split
  · next hpos => exact Binary64.le_mul_of_one_le hpos one_le_headroom isFinite_headroom
  · next hpos =>
    have hzero : Binary64.le greatest .zero = true :=
      Binary64.le_of_lt_eq_false nofun h (Bool.eq_false_iff.mpr hpos)
    exact Binary64.le_trans hzero (by decide +kernel)

/-- The axis ends above zero. -/
theorem zero_lt_axisEnd (greatest : Binary64) : Binary64.lt .zero (axisEnd greatest) = true := by
  by_cases hpos : Binary64.lt .zero greatest = true
  · exact Binary64.lt_of_lt_of_le hpos (le_axisEnd (Binary64.ne_nan_of_lt hpos).2)
  · rw [axisEnd, if_neg hpos]
    decide +kernel

/-- The room above the least positive number is rounded away, and that above `1.7e308` is infinite. -/
example : axisEnd (.ofDecimal 5 (-324)) = .ofDecimal 5 (-324)
    ∧ axisEnd (.ofDecimal 17 307) = .infinity := by
  decide +kernel

/-! ### The order of the runs -/

variable {metric : Metric} {runs others : List Run} {panel : Panel}

/-- If there is a panel for some runs, then there is one for the runs in any other order, with the
same values in another order. -/
theorem exists_collect_of_perm (hcollect : collect metric runs = .ok panel)
    (hperm : others.Perm runs) :
    ∃ other, collect metric others = .ok other ∧ other.values.Perm panel.values := by
  have hshows := (collect_eq_ok_iff.mp hcollect).values
  obtain ⟨values, hvalues, hsame⟩ := List.perm_comp_forall₂ hperm hshows.flip
  exact ⟨⟨metric, values⟩, collect_eq_ok_iff.mpr ⟨rfl, hvalues.flip⟩, hsame⟩

/-- **The axis covers the bars.**  The axis of a panel ends above zero, at a number, and at each value
or beyond it.  It ends at one if no value is above zero, and where it ends does not depend on the
order of the runs. -/
theorem yMax_of_collect (hcollect : collect metric runs = .ok panel) :
    Binary64.lt .zero panel.yMax = true
      ∧ panel.yMax ≠ .nan
      ∧ (∀ value ∈ panel.values, value ≠ .nan → Binary64.le value panel.yMax = true)
      ∧ ((∀ value ∈ panel.values, Binary64.lt .zero value = false) → panel.yMax = .ofNat 1)
      ∧ ∀ others : List Run, others.Perm runs →
        ∃ other, collect metric others = .ok other ∧ other.yMax = panel.yMax := by
  have hpeak := Binary64.isPeak_foldl_max panel.values
  have hpos : Binary64.lt .zero panel.yMax = true := zero_lt_axisEnd _
  refine ⟨hpos, (Binary64.ne_nan_of_lt hpos).2, ?_, ?_, ?_⟩
  · intro value hmem hvalue
    exact Binary64.le_trans (hpeak.le hmem hvalue) (le_axisEnd hpeak.ne_nan)
  · intro hnone
    refine if_neg fun hgreatest => ?_
    obtain ⟨value, hmem, hvalue⟩ := hpeak.zero_lt_iff.mp hgreatest
    rw [hnone value hmem] at hvalue
    cases hvalue
  · intro others hperm
    obtain ⟨other, hother, hsame⟩ := exists_collect_of_perm hcollect hperm
    refine ⟨other, hother, ?_⟩
    rw [yMax, yMax, Binary64.foldl_max_eq_of_perm hsame]

/-- Two runs, one with the least positive rate and one with a zero that has a sign. -/
def faintRuns : List Run :=
  [{ label := "least", rate := .ofDecimal 5 (-324),
     latency := ⟨⟨3000000⟩, ⟨0⟩, ⟨3000000⟩, .zero⟩ },
    { label := "minus", rate := Binary64.zero.neg,
      latency := ⟨⟨1000000⟩, ⟨0⟩, ⟨1000000⟩, .zero⟩ }]

/-- The panel of the rates of the faint runs. -/
def faintPanel : Panel where
  metric := .requestRate
  values := [.ofDecimal 5 (-324), Binary64.zero.neg]

/-- The axis covers the rates of the faint runs, and those of the faint runs turned around. -/
theorem yMax_faintPanel :
    collect .requestRate faintRuns = .ok faintPanel
      ∧ Binary64.lt .zero faintPanel.yMax = true
      ∧ (∀ value ∈ faintPanel.values, Binary64.le value faintPanel.yMax = true)
      ∧ ∃ other, collect .requestRate faintRuns.reverse = .ok other
        ∧ other.yMax = faintPanel.yMax := by
  have hcollect : collect .requestRate faintRuns = .ok faintPanel := rfl
  have hnumbers : ∀ value ∈ faintPanel.values, value ≠ .nan := by decide +kernel
  obtain ⟨hpos, -, hcover, -, hperm⟩ := yMax_of_collect hcollect
  exact ⟨hcollect, hpos, fun value hmem => hcover value hmem (hnumbers value hmem),
    hperm _ (List.reverse_perm _)⟩

end BenchCompare.Panel
