import BenchCompare.Chart.Metric

/-!
# Panels

A panel shows one metric of all runs as bars.  Its vertical axis begins at zero and leaves some room
above the highest bar.  Panels are arranged in a small grid.
-/

namespace BenchCompare

/-- The values of one metric, in the order of the runs. -/
structure Panel where
  metric : Metric
  values : List Binary64
  deriving DecidableEq

namespace Panel

/-- The values of a metric for all runs; fails with the first run that lacks the metric. -/
def values? (metric : Metric) : List Run → Except Run (List Binary64)
  | [] => .ok []
  | run :: rest =>
    match metric.value? run with
    | none => .error run
    | some value => (values? metric rest).map (value :: ·)

/-- The panel of a metric for all runs; fails with the first run that lacks the metric. -/
def collect (metric : Metric) (runs : List Run) : Except Run Panel :=
  (values? metric runs).map fun values => { metric, values }

/-- The room above the highest bar, as a factor. -/
def headroom : Binary64 := .ofRatio 115 100

/-- The upper end of the axis for the greatest value. -/
def axisEnd (greatest : Binary64) : Binary64 :=
  if Binary64.lt .zero greatest then greatest.mul headroom else .ofNat 1

/-- The upper end of the vertical axis. -/
def yMax (panel : Panel) : Binary64 :=
  axisEnd (panel.values.foldl Binary64.max .zero)

/-- The texts above the bars. -/
def texts (panel : Panel) : List String :=
  panel.values.map panel.metric.valueText

end Panel

/-- The arrangement of panels in rows and columns. -/
structure Grid where
  rows : Nat
  columns : Nat
  deriving DecidableEq, Repr

/-- The grid for a number of panels. -/
def Grid.forPanels (count : Nat) : Grid :=
  if count ≤ 1 then ⟨1, 1⟩ else if count = 2 then ⟨1, 2⟩ else ⟨2, 2⟩

end BenchCompare
