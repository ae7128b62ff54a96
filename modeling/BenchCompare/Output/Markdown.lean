import BenchCompare.Ranking

/-!
# Results in Markdown

Two Markdown tables, one by decreasing rate and one by increasing latency.  A label must not break
its cell: a vertical line in it is escaped, and a line break becomes a blank.
-/

namespace BenchCompare.Output.Markdown

/-- A character as it is written in a cell. -/
def cellChar (c : Char) : List Char :=
  if c = '|' then ['\\', '|'] else if c = '\n' then [' '] else [c]

/-- A text as it is written in a cell. -/
def cellText (text : String) : List Char :=
  text.toList.flatMap cellChar

/-- A row: vertical lines around the cells, with a blank on either side of a cell. -/
def row (cells : List (List Char)) : List Char :=
  '|' :: cells.flatMap fun cell => ' ' :: (cell ++ [' ', '|'])

/-- A run in the table of rates. -/
def rateRow (ranked : Ranked) : List Char :=
  row
    [Numeral.digits ranked.rank, cellText ranked.run.label, ranked.run.rate.fixed 2,
      ranked.relativeRate.fixed 1 ++ ['%'], Numeral.digits ranked.run.errorCount.toNat]

/-- A run in the table of latencies. -/
def latencyRow (ranked : Ranked) : List Char :=
  let latency := ranked.run.latency
  row
    [Numeral.digits ranked.rank, cellText ranked.run.label, latency.average.milliseconds.fixed 2,
      latency.deviation.milliseconds.fixed 2, latency.maximum.milliseconds.fixed 2]

/-- The lines in front of the rows of rates. -/
def rateHeading : List String :=
  ["# Benchmark Comparison", "", "## Throughput", "",
    "| Rank | Label | Req/s | Relative | Errors |",
    "|------|-------|-------|----------|--------|"]

/-- The lines between the rows of rates and the rows of latencies. -/
def latencyHeading : List String :=
  ["", "## Latency", "", "| Rank | Label | Avg (ms) | Stdev (ms) | Max (ms) |",
    "|------|-------|----------|------------|----------|"]

/-- All lines. -/
def lines (runs : List Run) : List (List Char) :=
  rateHeading.map String.toList ++ (Ranking.byRate runs).map rateRow
    ++ latencyHeading.map String.toList ++ (Ranking.byLatency runs).map latencyRow

/-- The runs as Markdown tables. -/
def render (runs : List Run) : String :=
  String.ofList ((lines runs).flatMap fun line => line ++ ['\n'])

end BenchCompare.Output.Markdown
