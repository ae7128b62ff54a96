import BenchCompare.Binary64.Arith
import BenchCompare.Binary64.Style
import BenchCompare.Text.Basic

/-!
# Benchmark runs

A *run* is what is known about one execution of a load generator: its label, its throughput and its
latency always, everything else if it was reported.  Counts have the width in which they are stored,
and sums of counts stop at the greatest count.

A *duration* is a whole number of nanoseconds.  Files and charts show it in milliseconds, as a
binary64 number; reading such a number back rounds to the nearest whole nanosecond.
-/

namespace BenchCompare

/-! ### Durations -/

/-- A span of time in nanoseconds. -/
structure Duration where
  nanoseconds : UInt64
  deriving DecidableEq, Repr

namespace Duration

/-- How many nanoseconds make a millisecond. -/
def perMillisecond : Binary64 := .ofNat 1000000

/-- The duration in milliseconds. -/
def milliseconds (d : Duration) : Binary64 :=
  (Binary64.ofNat d.nanoseconds.toNat).div perMillisecond

/-- The duration of a number of milliseconds, which has to be finite and not below zero. -/
def ofMilliseconds? (ms : Binary64) : Option Duration :=
  if ms.isFiniteNonneg then some ⟨(ms.mul perMillisecond).toCount⟩ else none

end Duration

/-! ### Runs -/

/-- The sum of two counts, or the greatest count if the sum is greater. -/
def addCounts (m n : UInt64) : UInt64 :=
  .ofNat (min (m.toNat + n.toNat) (UInt64.size - 1))

/-- The latency of the requests of a run. -/
structure LatencyStats where
  average : Duration
  deviation : Duration
  maximum : Duration
  /-- The share of samples within one standard deviation, in percent. -/
  withinDeviation : Binary64
  deriving DecidableEq

/-- The request rate of each thread of a run. -/
structure ThreadStats where
  average : Binary64
  deviation : Binary64
  maximum : Binary64
  /-- The share of samples within one standard deviation, in percent. -/
  withinDeviation : Binary64
  deriving DecidableEq

/-- The latency that a given percentage of the requests did not exceed. -/
structure Percentile where
  percent : Binary64
  latency : Duration
  deriving DecidableEq

/-- Failed socket operations, by operation. -/
structure SocketErrors where
  connect : UInt64 := 0
  read : UInt64 := 0
  write : UInt64 := 0
  timeout : UInt64 := 0
  deriving DecidableEq, Repr

/-- One benchmark run. -/
structure Run where
  label : String
  target : Option String := none
  /-- The configured duration of the test. -/
  planned : Option Duration := none
  threads : Option UInt32 := none
  connections : Option UInt32 := none
  /-- Requests per second over all threads. -/
  rate : Binary64
  latency : LatencyStats
  threadRate : Option ThreadStats := none
  /-- Latency percentiles in the order of the report. -/
  distribution : List Percentile := []
  requests : Option UInt64 := none
  /-- The measured duration of the test. -/
  elapsed : Option Duration := none
  bytesRead : Option UInt64 := none
  /-- Bytes per second. -/
  transferRate : Option UInt64 := none
  socketErrors : SocketErrors := {}
  /-- Responses with a status outside 2xx and 3xx. -/
  failedResponses : UInt64 := 0
  deriving DecidableEq

/-- The number of all socket errors. -/
def SocketErrors.total (e : SocketErrors) : UInt64 :=
  addCounts (addCounts (addCounts e.connect e.read) e.write) e.timeout

/-- The latency statistics in one line of text. -/
def LatencyStats.summary (s : LatencyStats) : String :=
  let shown (x : Binary64) := String.ofList (x.fixed 2)
  "avg=" ++ shown s.average.milliseconds ++ "ms stdev=" ++ shown s.deviation.milliseconds
    ++ "ms max=" ++ shown s.maximum.milliseconds ++ "ms +/-stdev=" ++ shown s.withinDeviation ++ "%"

namespace Run

/-- How far two percentages may differ and still name the same percentile. -/
def percentTolerance : Binary64 := .ofRatio 1 10000

/-- The latency at a percentile, from the first entry that names it. -/
def percentile? (run : Run) (percent : Binary64) : Option Duration :=
  (run.distribution.find? fun entry =>
    Binary64.lt (entry.percent.distance percent) percentTolerance).map Percentile.latency

/-- The average latency in milliseconds. -/
def averageMs (run : Run) : Binary64 :=
  run.latency.average.milliseconds

/-- The number of socket errors and failed responses. -/
def errorCount (run : Run) : UInt64 :=
  addCounts run.socketErrors.total run.failedResponses

/-- The run in one line of text. -/
def headline (run : Run) : String :=
  run.label ++ ": " ++ String.ofList (run.rate.fixed 2) ++ " req/s, "
    ++ String.ofList (run.averageMs.fixed 2) ++ "ms avg latency"

/-- What can be wrong with a run that was read from a file. -/
inductive Fault where
  | blankLabel
  | badRate (label : String) (rate : Binary64)
  deriving DecidableEq

/-- The wording of a fault. -/
def Fault.message : Fault → String
  | .blankLabel => "label must not be empty"
  | .badRate label rate =>
    label ++ ": requests_per_second must be a non-negative number, got "
      ++ String.ofList (NumberStyle.plain.render rate)

/-- The first fault of a run: its label has to be more than blanks, and its rate finite and not
below zero. -/
def fault? (run : Run) : Option Fault :=
  if Text.isBlankText run.label.toList then some .blankLabel
  else if run.rate.isFiniteNonneg then none
  else some (.badRate run.label run.rate)

end Run

end BenchCompare
