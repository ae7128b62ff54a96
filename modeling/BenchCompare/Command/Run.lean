import BenchCompare.Command.Line
import BenchCompare.Input.Load
import BenchCompare.Settings.Load

/-!
# Running a command

A command works on the files as they are, on the environment, and on the time of day.  It results in
a text to print, warnings, possibly a picture to write, and possibly a fault.

Settings on the command line come before all others.
-/

namespace BenchCompare.Command

/-- Why a command fails. -/
inductive Fault where
  | settings (fault : Config.SettingsFault)
  | load (fault : Input.Fault)
  | chart (path : Path) (fault : ChartFault)
  deriving DecidableEq

/-- The wording of a fault. -/
def Fault.message : Fault → String
  | .settings fault => fault.message
  | .load fault => fault.message
  | .chart path fault => "Failed to render chart to " ++ path.text ++ ": " ++ fault.message

/-- What comes of a command. -/
structure Outcome where
  /-- The text that is printed. -/
  printed : String := ""
  warnings : List LabelWarning := []
  /-- The picture that is written, and where. -/
  picture : Option (Path × Drawing) := none
  fault : Option Fault := none
  deriving DecidableEq

/-- What a command depends on. -/
structure Setting where
  files : FileView
  home : Path
  environment : Environment
  /-- The time of day as it is written into saved runs. -/
  now : String

/-! ### Charts -/

/-- Where a chart is written, and its options. -/
structure ChartSettings where
  output : Path
  options : ChartOptions
  deriving DecidableEq, Repr

/-- The settings of a chart: what the command line says, and otherwise what the settings say. -/
def chartSettings (arguments : ChartArguments) (config : Config) : ChartSettings where
  output := arguments.output.getD config.output
  options :=
    { title := arguments.title.getD config.title
      width := arguments.width.getD config.width
      height := arguments.height.getD config.height
      metrics := arguments.metric.getD config.metrics }

/-- Loads runs and plans a chart of them. -/
def runChart (files : FileView) (arguments : ChartArguments) (config : Config) : Outcome :=
  let settings := chartSettings arguments config
  let loading := Input.loadAll files arguments.inputs
  match loading.outcome with
  | .error fault => { warnings := loading.warnings, fault := some (.load fault) }
  | .ok runs =>
    match Drawing.plan files runs settings.output settings.options with
    | .error fault =>
      { warnings := loading.warnings, fault := some (.chart settings.output fault) }
    | .ok drawing =>
      { printed := "Chart saved to " ++ settings.output.text ++ "\n"
        warnings := loading.warnings
        picture := some (settings.output, drawing) }

/-! ### Printing -/

/-- Loads runs and prints them. -/
def runPrint (files : FileView) (now : String) (inputs : List InputSpec)
    (format : Option OutputFormat) (config : Config) : Outcome :=
  let loading := Input.loadAll files inputs
  match loading.outcome with
  | .error fault => { warnings := loading.warnings, fault := some (.load fault) }
  | .ok runs =>
    { printed := (format.getD config.outputFormat).render now runs ++ "\n"
      warnings := loading.warnings }

/-- The text about the environment variables. -/
def environmentText (e : Environment) : String :=
  if e.hasAny then Environment.help ++ "\n" ++ e.summary else Environment.help

/-- The text that says where the settings come from. -/
def sourceText (config : Config) : String :=
  match config.source with
  | some path => "# Loaded from " ++ path.text ++ "\n"
  | none => "# No config file found; built-in defaults\n"

/-- The text of the command that shows settings. -/
def configText (sample environment : Bool) (config : Config) (e : Environment) : String :=
  if environment then environmentText e
  else if sample then Config.sample.toYaml
  else sourceText config ++ config.toYaml

/-- Runs a command. -/
def run (setting : Setting) (line : Line) : Outcome :=
  match Config.resolve setting.files setting.home line.config setting.environment with
  | .error fault => { fault := some (.settings fault) }
  | .ok config =>
    match line.action with
    | .chart arguments => runChart setting.files arguments config
    | .print inputs format => runPrint setting.files setting.now inputs format config
    | .config sample environment =>
      { printed := configText sample environment config setting.environment }

end BenchCompare.Command
