import BenchCompare.Run.Basic

/-!
# Rankings

Runs are ranked by rate, the greatest first, or by average latency, the least first.  Runs that are
equal in that respect keep their order.  Each ranked run carries its rate relative to the best rate
of the set, in percent.
-/

namespace BenchCompare

/-- A run with its position in a ranking. -/
structure Ranked where
  /-- The position, beginning with one. -/
  rank : Nat
  run : Run
  /-- The rate in percent of the best rate. -/
  relativeRate : Binary64
  deriving DecidableEq

namespace Ranking

/-- The greatest rate of the runs, and zero if no rate is above zero. -/
def bestRate (runs : List Run) : Binary64 :=
  runs.foldl (fun best run => best.max run.rate) .zero

/-- A rate in percent of the best one; zero if the best one is not above zero. -/
def percentOf (best rate : Binary64) : Binary64 :=
  if Binary64.lt .zero best then (rate.div best).mul (.ofNat 100) else .zero

/-- The rate of a run in percent of the best rate of the runs. -/
def relativeRate (runs : List Run) (run : Run) : Binary64 :=
  percentOf (bestRate runs) run.rate

/-- Numbers the runs in the given order. -/
def numbered (best : Binary64) (ordered : List Run) : List Ranked :=
  ordered.zipIdx.map fun (run, index) =>
    { rank := index + 1, run, relativeRate := percentOf best run.rate }

/-- Whether a run need not come after another one in the order of rates. -/
def rateBefore (a b : Run) : Bool :=
  !Binary64.lt a.rate b.rate

/-- Whether a run need not come after another one in the order of latencies. -/
def latencyBefore (a b : Run) : Bool :=
  a.latency.average.nanoseconds ≤ b.latency.average.nanoseconds

/-- The runs by decreasing rate. -/
def byRate (runs : List Run) : List Ranked :=
  numbered (bestRate runs) (runs.mergeSort rateBefore)

/-- The runs by increasing average latency. -/
def byLatency (runs : List Run) : List Ranked :=
  numbered (bestRate runs) (runs.mergeSort latencyBefore)

end Ranking

end BenchCompare
