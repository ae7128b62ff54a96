import BenchCompare.Ranking

/-!
# Results as a table

The table has one row per run, by decreasing rate, between border lines of a fixed width.  Below it
the runs are listed once more by increasing latency.

The width of a text is its number of characters.  Cells are filled up with blanks on the left or on
the right, and a label that is too long is cut and ends in an ellipsis.
-/

namespace BenchCompare.Text

/-- The text with blanks in front of it, up to a width. -/
def alignRight (width : Nat) (cs : List Char) : List Char :=
  List.replicate (width - cs.length) ' ' ++ cs

/-- The text with blanks after it, up to a width. -/
def alignLeft (width : Nat) (cs : List Char) : List Char :=
  cs ++ List.replicate (width - cs.length) ' '

/-- The text if it fits a width, otherwise its beginning and an ellipsis. -/
def truncate (width : Nat) (cs : List Char) : List Char :=
  if cs.length ≤ width then cs else cs.take (width - 1) ++ ['…']

end BenchCompare.Text

namespace BenchCompare.Output.Table

/-- The border above the column names. -/
def topBorder : String :=
  "┌──────┬────────────────────────┬────────────┬──────────┬──────────┬──────────┬──────────┬──────────┐"

/-- The column names. -/
def heading : String :=
  "│ Rank │ Label                  │      Req/s │ Avg (ms) │ Max (ms) │ P99 (ms) │   Errors │ Relative │"

/-- The border below the column names. -/
def middleBorder : String :=
  "├──────┼────────────────────────┼────────────┼──────────┼──────────┼──────────┼──────────┼──────────┤"

/-- The border below the rows. -/
def bottomBorder : String :=
  "└──────┴────────────────────────┴────────────┴──────────┴──────────┴──────────┴──────────┴──────────┘"

/-- The percentile shown in a column of its own. -/
def shownPercentile : Binary64 := .ofNat 99

/-- The text of a percentile; a dash if it was not reported. -/
def percentileText (run : Run) : List Char :=
  match run.percentile? shownPercentile with
  | some d => d.milliseconds.fixed 2
  | none => ['-']

/-- The width of the column of labels. -/
def labelWidth : Nat := 22

/-- A label in its column. -/
def labelCell (label : String) : List Char :=
  Text.alignLeft labelWidth (Text.truncate labelWidth label.toList)

/-- The cells of a row. -/
def cells (ranked : Ranked) : List (List Char) :=
  let run := ranked.run
  [Text.alignRight 4 (Numeral.digits ranked.rank),
    labelCell run.label,
    Text.alignRight 10 (run.rate.fixed 2),
    Text.alignRight 8 (run.averageMs.fixed 2),
    Text.alignRight 8 (run.latency.maximum.milliseconds.fixed 2),
    Text.alignRight 8 (percentileText run),
    Text.alignRight 8 (Numeral.digits run.errorCount.toNat),
    Text.alignRight 7 (ranked.relativeRate.fixed 1) ++ ['%']]

/-- A row: each cell between vertical lines, with a blank on either side. -/
def row (ranked : Ranked) : List Char :=
  '│' :: (cells ranked).flatMap fun cell => ' ' :: (cell ++ [' ', '│'])

/-- A run in the list by latency. -/
def latencyItem (ranked : Ranked) : List Char :=
  Numeral.digits ranked.rank ++ ". ".toList ++ ranked.run.label.toList ++ " (".toList
    ++ ranked.run.averageMs.fixed 2 ++ "ms)".toList

/-- The list of the runs by latency. -/
def latencyList (runs : List Run) : List Char :=
  "Lowest latency: ".toList
    ++ [',', ' '].intercalate ((Ranking.byLatency runs).map latencyItem)

/-- The lines of the table and the list below it. -/
def lines (runs : List Run) : List (List Char) :=
  [[], topBorder.toList, heading.toList, middleBorder.toList]
    ++ (Ranking.byRate runs).map row ++ [bottomBorder.toList, latencyList runs]

/-- The runs as a table. -/
def render (runs : List Run) : String :=
  String.ofList ((lines runs).flatMap fun line => line ++ ['\n'])

end BenchCompare.Output.Table
