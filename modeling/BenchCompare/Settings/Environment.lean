import BenchCompare.Text.Basic
import BenchCompare.Text.Quoted

/-!
# Settings in environment variables

Some settings can be given in environment variables.  A variable that is empty or blank counts as
not set.  The values are kept as texts here; they are read when they are applied.
-/

namespace BenchCompare

/-- The settings found in environment variables. -/
structure Environment where
  output : Option String := none
  title : Option String := none
  width : Option String := none
  height : Option String := none
  metric : Option String := none
  format : Option String := none
  configFile : Option String := none
  log : Option String := none
  deriving DecidableEq, Repr

namespace Environment

/-- The first word of the names of all variables. -/
def namePrefix : String := "WRK_COMPARE"

/-- The full name of a variable. -/
def fullName (name : String) : String :=
  namePrefix ++ "_" ++ name

/-- The value of a variable, unless it is blank. -/
def value? (lookup : String → Option String) (name : String) : Option String :=
  (lookup (fullName name)).filter fun value => !Text.isBlankText value.toList

/-- The settings in the variables that `lookup` finds by their full names. -/
def ofVariables (lookup : String → Option String) : Environment where
  output := value? lookup "OUTPUT"
  title := value? lookup "TITLE"
  width := value? lookup "WIDTH"
  height := value? lookup "HEIGHT"
  metric := value? lookup "METRIC"
  format := value? lookup "FORMAT"
  configFile := value? lookup "CONFIG"
  log := value? lookup "LOG"

/-- The settings by the names of their variables, in the order in which they are listed. -/
def entries (e : Environment) : List (String × Option String) :=
  [("OUTPUT", e.output), ("TITLE", e.title), ("WIDTH", e.width), ("HEIGHT", e.height),
    ("METRIC", e.metric), ("FORMAT", e.format), ("CONFIG", e.configFile), ("LOG", e.log)]

/-- Whether any setting is given. -/
def hasAny (e : Environment) : Bool :=
  e.entries.any fun entry => entry.2.isSome

/-- A setting as it is shown in the summary. -/
def valueText : Option String → String
  | some value => "Some(" ++ Text.quoted value ++ ")"
  | none => "None"

/-- A line of the summary; the values begin in one column. -/
def summaryLine (entry : String × Option String) : String :=
  "  " ++ fullName entry.1 ++ ":" ++ String.ofList (List.replicate (8 - entry.1.length) ' ')
    ++ valueText entry.2 ++ "\n"

/-- The settings, one in a line. -/
def summary (e : Environment) : String :=
  "Environment Configuration:\n" ++ String.join (e.entries.map summaryLine)

/-- The lines about the variables, each with its meaning. -/
def helpEntries : List (String × String) :=
  [("OUTPUT", "Chart output path (default: benchmark_comparison.png)"),
    ("TITLE", "Chart title"),
    ("WIDTH", "Chart width in pixels"),
    ("HEIGHT", "Chart height in pixels"),
    ("METRIC", "Panels to draw (rps, latency, p99, transfer, both, all)"),
    ("FORMAT", "Default show format (table, json, json-pretty, csv, markdown)"),
    ("CONFIG", "Path to configuration file"),
    ("LOG", "Log filter directive (e.g. wrk_compare=debug)")]

/-- A line about a variable; the meanings begin in one column. -/
def helpLine (entry : String × String) : String :=
  "  " ++ fullName entry.1 ++ String.ofList (List.replicate (9 - entry.1.length) ' ')
    ++ entry.2 ++ "\n"

/-- The text that explains the variables. -/
def help : String :=
  "Environment Variables:\n\n" ++ String.join (helpEntries.map helpLine) ++ "\nExample:\n  export "
    ++ fullName "METRIC" ++ "=all\n  wrk-compare chart rr=round_robin.txt lc=least_conn.txt\n"

end Environment

end BenchCompare
