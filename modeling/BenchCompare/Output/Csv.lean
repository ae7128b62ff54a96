import BenchCompare.Run.Basic

/-!
# Results as comma-separated values

One record with the names of the columns, then one record per run.  Each record ends in a line feed.
A field is quoted exactly if it holds a comma, a quote or a line break character; in a quoted field
quotes are doubled.  No runs give no records at all.
-/

namespace BenchCompare.Output.Csv

/-- Whether a character forces its field to be quoted. -/
def forcesQuotes (c : Char) : Bool :=
  c == ',' || c == '"' || c == '\n' || c == '\r'

/-- A character inside quotes. -/
def quotedChar (c : Char) : List Char :=
  if c = '"' then ['"', '"'] else [c]

/-- A field as it is written. -/
def field (value : List Char) : List Char :=
  if value.any forcesQuotes then '"' :: (value.flatMap quotedChar ++ ['"']) else value

/-- A record with its line feed. -/
def record (fields : List (List Char)) : List Char :=
  [','].intercalate (fields.map field) ++ ['\n']

/-- Numbers are written in the shortest way, with a bare exponent from `10¹⁶` upwards and below
`10⁻⁵`. -/
def numberStyle : NumberStyle where
  plainFrom := some (-5)
  plainBelow := some 16
  pointZero := true
  exponentPlus := false
  tie := .toEven

/-- The names of the columns. -/
def columnNames : List String :=
  ["label", "target", "threads", "connections", "requests_per_second", "latency_avg_ms",
    "latency_stdev_ms", "latency_max_ms", "latency_p99_ms", "total_requests",
    "transfer_per_second", "socket_errors", "non_2xx_3xx"]

/-- A value that may be missing; a missing one is an empty field. -/
def optionalField {α : Type} (shown : α → List Char) : Option α → List Char
  | some value => shown value
  | none => []

/-- A number. -/
def number (x : Binary64) : List Char :=
  numberStyle.render x

/-- The values of a run, column by column. -/
def values (run : Run) : List (List Char) :=
  [run.label.toList,
    optionalField String.toList run.target,
    optionalField (fun n => Numeral.digits n.toNat) run.threads,
    optionalField (fun n => Numeral.digits n.toNat) run.connections,
    number run.rate,
    number run.latency.average.milliseconds,
    number run.latency.deviation.milliseconds,
    number run.latency.maximum.milliseconds,
    optionalField (fun d => number d.milliseconds) (run.percentile? (.ofNat 99)),
    optionalField (fun n => Numeral.digits n.toNat) run.requests,
    optionalField (fun n => Numeral.digits n.toNat) run.transferRate,
    Numeral.digits run.socketErrors.total.toNat,
    Numeral.digits run.failedResponses.toNat]

/-- The runs as records. -/
def render (runs : List Run) : String :=
  if runs.isEmpty then ""
  else
    String.ofList <|
      (columnNames.map String.toList :: runs.map values).flatMap record

end BenchCompare.Output.Csv
