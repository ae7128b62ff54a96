import BenchCompare.Json.Printer
import BenchCompare.Output.Csv
import BenchCompare.Output.Markdown
import BenchCompare.Output.Table
import BenchCompare.Run.Json
import BenchCompare.Text.Basic

/-!
# Output formats

The formats in which a set of runs can be printed, by name.
-/

namespace BenchCompare

/-- A format for printing runs. -/
inductive OutputFormat where
  | table
  | json
  | jsonPretty
  | csv
  | markdown
  deriving DecidableEq, Repr

namespace OutputFormat

/-- The format with a name, which may be in any case. -/
def ofName? (name : String) : Option OutputFormat :=
  match Text.lowerName name with
  | "table" | "text" => some .table
  | "json" => some .json
  | "json-pretty" | "jsonpretty" => some .jsonPretty
  | "csv" => some .csv
  | "markdown" | "md" => some .markdown
  | _ => none

/-- The runs in a format.  The time of writing appears in JSON only. -/
def render (format : OutputFormat) (generatedAt : String) (runs : List Run) : String :=
  match format with
  | .table => Output.Table.render runs
  | .json => (Run.setToJson generatedAt runs).render .compact
  | .jsonPretty => (Run.setToJson generatedAt runs).render .indented
  | .csv => Output.Csv.render runs
  | .markdown => Output.Markdown.render runs

end OutputFormat

end BenchCompare
