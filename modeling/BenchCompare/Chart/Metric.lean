import BenchCompare.Run.Basic
import BenchCompare.Text.Basic

/-!
# Metrics

A metric is a quantity of a run that a chart can show.  A *selection* names the metrics that one
chart shows, in the order of its panels.
-/

namespace BenchCompare

/-- A quantity that a chart can show. -/
inductive Metric where
  | requestRate
  | averageLatency
  | p99Latency
  | transferRate
  deriving DecidableEq, Repr

namespace Metric

/-- The caption of a panel. -/
def title : Metric → String
  | .requestRate => "Requests per Second"
  | .averageLatency => "Average Latency"
  | .p99Latency => "P99 Latency"
  | .transferRate => "Transfer Rate"

/-- The description of the vertical axis. -/
def axisLabel : Metric → String
  | .requestRate => "req/s"
  | .averageLatency | .p99Latency => "ms"
  | .transferRate => "MB/s"

/-- The metric in running text. -/
def name : Metric → String
  | .requestRate => "requests/sec"
  | .averageLatency => "average latency"
  | .p99Latency => "p99 latency"
  | .transferRate => "transfer/sec"

/-- The number of bytes in a megabyte. -/
def bytesPerMegabyte : Nat := 1024 * 1024

/-- The value of a run, if it was reported. -/
def value? (metric : Metric) (run : Run) : Option Binary64 :=
  match metric with
  | .requestRate => some run.rate
  | .averageLatency => some run.averageMs
  | .p99Latency => (run.percentile? (.ofNat 99)).map Duration.milliseconds
  | .transferRate =>
    run.transferRate.map fun bytes => (Binary64.ofNat bytes.toNat).div (.ofNat bytesPerMegabyte)

/-- The text above the bar of a value. -/
def valueText (metric : Metric) (value : Binary64) : String :=
  match metric with
  | .requestRate => String.ofList (value.fixed 0)
  | .averageLatency | .p99Latency | .transferRate => String.ofList (value.fixed 2)

end Metric

/-- A choice of metrics for one chart. -/
inductive Selection where
  | rps
  | latency
  | p99
  | transfer
  | both
  | all
  deriving DecidableEq, Repr

namespace Selection

/-- The name under which a selection is stored. -/
def key : Selection → String
  | .rps => "rps"
  | .latency => "latency"
  | .p99 => "p99"
  | .transfer => "transfer"
  | .both => "both"
  | .all => "all"

/-- All selections. -/
def every : List Selection :=
  [.rps, .latency, .p99, .transfer, .both, .all]

/-- The selection that is stored under a name. -/
def ofKey? (key : String) : Option Selection :=
  every.find? fun selection => selection.key = key

/-- The selection with a name or another common word for it, in any case. -/
def ofName? (name : String) : Option Selection :=
  match Text.lowerName name with
  | "throughput" => some .rps
  | "avg" => some .latency
  | key => ofKey? key

/-- The metrics of a selection, in the order of the panels. -/
def metrics : Selection → List Metric
  | .rps => [.requestRate]
  | .latency => [.averageLatency]
  | .p99 => [.p99Latency]
  | .transfer => [.transferRate]
  | .both => [.requestRate, .averageLatency]
  | .all => [.requestRate, .averageLatency, .p99Latency, .transferRate]

end Selection

end BenchCompare
