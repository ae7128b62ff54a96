import BenchCompare.Json.Record
import BenchCompare.Run.Basic
import BenchCompare.Timestamp

/-!
# Runs in JSON

Saved runs are JSON records.  Durations are numbers of milliseconds.  Fields without a value are
left out, and so is an empty latency distribution; the socket errors and the failed responses are
always written, but need not be there when a run is read.

A file of saved runs is a record with the time of writing, a list of runs, or a single run.
-/

namespace BenchCompare

namespace Duration

/-- A duration as a number of milliseconds. -/
def toJson (d : Duration) : Json :=
  .number d.milliseconds

/-- Reads a duration from a number of milliseconds. -/
def ofJson? (value : Json) : Option Duration :=
  value.asNumber?.bind ofMilliseconds?

end Duration

namespace LatencyStats

/-- The names of the fields. -/
def fieldNames : List String :=
  ["avg_ms", "stdev_ms", "max_ms", "within_stdev"]

/-- Latency statistics as a record. -/
def toJson (s : LatencyStats) : Json :=
  .object
    [("avg_ms", s.average.toJson), ("stdev_ms", s.deviation.toJson), ("max_ms", s.maximum.toJson),
      ("within_stdev", .number s.withinDeviation)]

/-- Reads latency statistics. -/
def ofJson? (value : Json) : Option LatencyStats := do
  let fields ← value.fields? fieldNames
  return {
    average := ← Json.required? Duration.ofJson? "avg_ms" fields
    deviation := ← Json.required? Duration.ofJson? "stdev_ms" fields
    maximum := ← Json.required? Duration.ofJson? "max_ms" fields
    withinDeviation := ← Json.required? Json.asNumber? "within_stdev" fields }

end LatencyStats

namespace ThreadStats

/-- The names of the fields. -/
def fieldNames : List String :=
  ["avg", "stdev", "max", "within_stdev"]

/-- Thread statistics as a record. -/
def toJson (s : ThreadStats) : Json :=
  .object
    [("avg", .number s.average), ("stdev", .number s.deviation), ("max", .number s.maximum),
      ("within_stdev", .number s.withinDeviation)]

/-- Reads thread statistics. -/
def ofJson? (value : Json) : Option ThreadStats := do
  let fields ← value.fields? fieldNames
  return {
    average := ← Json.required? Json.asNumber? "avg" fields
    deviation := ← Json.required? Json.asNumber? "stdev" fields
    maximum := ← Json.required? Json.asNumber? "max" fields
    withinDeviation := ← Json.required? Json.asNumber? "within_stdev" fields }

end ThreadStats

namespace Percentile

/-- The names of the fields. -/
def fieldNames : List String :=
  ["percentile", "latency_ms"]

/-- A percentile as a record. -/
def toJson (p : Percentile) : Json :=
  .object [("percentile", .number p.percent), ("latency_ms", p.latency.toJson)]

/-- Reads a percentile. -/
def ofJson? (value : Json) : Option Percentile := do
  let fields ← value.fields? fieldNames
  return {
    percent := ← Json.required? Json.asNumber? "percentile" fields
    latency := ← Json.required? Duration.ofJson? "latency_ms" fields }

end Percentile

namespace SocketErrors

/-- The names of the fields. -/
def fieldNames : List String :=
  ["connect", "read", "write", "timeout"]

/-- Socket errors as a record. -/
def toJson (e : SocketErrors) : Json :=
  .object
    [("connect", .count64 e.connect), ("read", .count64 e.read), ("write", .count64 e.write),
      ("timeout", .count64 e.timeout)]

/-- Reads socket errors. -/
def ofJson? (value : Json) : Option SocketErrors := do
  let fields ← value.fields? fieldNames
  return {
    connect := ← Json.required? Json.asCount64? "connect" fields
    read := ← Json.required? Json.asCount64? "read" fields
    write := ← Json.required? Json.asCount64? "write" fields
    timeout := ← Json.required? Json.asCount64? "timeout" fields }

end SocketErrors

namespace Run

/-- The names of the fields. -/
def fieldNames : List String :=
  ["label", "target", "test_duration_ms", "threads", "connections", "requests_per_second",
    "latency", "thread_requests", "latency_distribution", "total_requests", "elapsed_ms",
    "bytes_read", "transfer_per_second", "socket_errors", "non_2xx_3xx"]

/-- The latency distribution as a member, unless it is empty. -/
def distributionMember (entries : List Percentile) : List (String × Json) :=
  if entries.isEmpty then []
  else [("latency_distribution", .array (entries.map Percentile.toJson))]

/-- A run as a record. -/
def toJson (run : Run) : Json :=
  .object <|
    [("label", .text run.label)]
      ++ Json.optionalMember "target" (run.target.map .text)
      ++ Json.optionalMember "test_duration_ms" (run.planned.map Duration.toJson)
      ++ Json.optionalMember "threads" (run.threads.map Json.count32)
      ++ Json.optionalMember "connections" (run.connections.map Json.count32)
      ++ [("requests_per_second", .number run.rate), ("latency", run.latency.toJson)]
      ++ Json.optionalMember "thread_requests" (run.threadRate.map ThreadStats.toJson)
      ++ distributionMember run.distribution
      ++ Json.optionalMember "total_requests" (run.requests.map Json.count64)
      ++ Json.optionalMember "elapsed_ms" (run.elapsed.map Duration.toJson)
      ++ Json.optionalMember "bytes_read" (run.bytesRead.map Json.count64)
      ++ Json.optionalMember "transfer_per_second" (run.transferRate.map Json.count64)
      ++ [("socket_errors", run.socketErrors.toJson),
        ("non_2xx_3xx", .count64 run.failedResponses)]

/-- Reads a run. -/
def ofJson? (value : Json) : Option Run := do
  let fields ← value.fields? fieldNames
  return {
    label := ← Json.required? Json.asText? "label" fields
    target := ← Json.optional? Json.asText? "target" fields
    planned := ← Json.optional? Duration.ofJson? "test_duration_ms" fields
    threads := ← Json.optional? Json.asCount32? "threads" fields
    connections := ← Json.optional? Json.asCount32? "connections" fields
    rate := ← Json.required? Json.asNumber? "requests_per_second" fields
    latency := ← Json.required? LatencyStats.ofJson? "latency" fields
    threadRate := ← Json.optional? ThreadStats.ofJson? "thread_requests" fields
    distribution :=
      ← Json.defaulted? (Json.asList? Percentile.ofJson?) [] "latency_distribution" fields
    requests := ← Json.optional? Json.asCount64? "total_requests" fields
    elapsed := ← Json.optional? Duration.ofJson? "elapsed_ms" fields
    bytesRead := ← Json.optional? Json.asCount64? "bytes_read" fields
    transferRate := ← Json.optional? Json.asCount64? "transfer_per_second" fields
    socketErrors := ← Json.defaulted? SocketErrors.ofJson? {} "socket_errors" fields
    failedResponses := ← Json.defaulted? Json.asCount64? 0 "non_2xx_3xx" fields }

/-! ### Files of saved runs -/

/-- Runs as a JSON list. -/
def listToJson (runs : List Run) : Json :=
  .array (runs.map toJson)

/-- Reads a JSON list of runs. -/
def listOfJson? (value : Json) : Option (List Run) :=
  value.asList? ofJson?

/-- Runs with the time of writing. -/
def setToJson (generatedAt : String) (runs : List Run) : Json :=
  .object [("generated_at", .text generatedAt), ("results", listToJson runs)]

/-- Reads runs with the time of writing, which has to be a timestamp. -/
def setOfJson? (value : Json) : Option (List Run) := do
  let fields ← value.fields? ["generated_at", "results"]
  let _ ← Json.required? (fun v => v.asText?.bind Timestamp.parse?) "generated_at" fields
  Json.required? listOfJson? "results" fields

/-- Reads the runs of a file in the first of the three shapes that fits. -/
def savedOfJson? (value : Json) : Option (List Run) :=
  (setOfJson? value).or ((listOfJson? value).or ((ofJson? value).map fun run => [run]))

end Run

end BenchCompare
