import BenchCompare.Chart.Plan
import BenchCompare.Output.Format
import BenchCompare.Settings.Environment

/-!
# Settings

The settings say what a chart looks like and how runs are printed.  They start from defaults, on top
of which come the settings of a file and then those of environment variables.  The file may leave
out any of them.

Environment variables are applied one after the other, in a fixed order; the first one that cannot
be read ends this, and the settings applied before it stay.  In the end the settings as a whole must
be valid.
-/

namespace BenchCompare

/-- The settings of the program. -/
structure Config where
  title : String := "Benchmark Comparison"
  /-- Where a chart is written. -/
  output : Path := ⟨"benchmark_comparison.png"⟩
  width : UInt32 := 1000
  height : UInt32 := 600
  metrics : Selection := .both
  /-- The name of the format in which runs are printed. -/
  format : String := "table"
  /-- The file from which the settings were loaded. -/
  source : Option Path := none
  deriving DecidableEq, Repr

/-- The settings that a file gives. -/
structure FileSettings where
  title : Option String := none
  output : Option Path := none
  width : Option UInt32 := none
  height : Option UInt32 := none
  metrics : Option Selection := none
  format : Option String := none
  deriving DecidableEq, Repr

namespace Config

/-- An example of settings. -/
def sample : Config where
  title := "Load Balancing Algorithms"
  output := ⟨"charts/lb_comparison.png"⟩
  width := 1200
  height := 700
  metrics := .all
  format := "markdown"

/-- The names of the settings in a file, in the order in which they are written. -/
def fieldNames : List String :=
  ["title", "output", "width", "height", "metric", "format"]

/-- The defaults with the settings of a file in their place. -/
def ofFile (file : FileSettings) : Config :=
  let base : Config := {}
  { title := file.title.getD base.title
    output := file.output.getD base.output
    width := file.width.getD base.width
    height := file.height.getD base.height
    metrics := file.metrics.getD base.metrics
    format := file.format.getD base.format }

/-! ### Validity -/

/-- What can be wrong with settings. -/
inductive Fault where
  | zeroSize (width height : UInt32)
  | emptyOutput
  | unknownFormat (format : String)
  deriving DecidableEq, Repr

/-- The wording of a fault. -/
def Fault.message : Fault → String
  | .zeroSize width height =>
    "Chart dimensions must be positive, got " ++ Numeral.text width.toNat ++ "x"
      ++ Numeral.text height.toNat
  | .emptyOutput => "Output path must not be empty"
  | .unknownFormat format => "Unknown output format: " ++ format

/-- The first fault of settings. -/
def fault? (config : Config) : Option Fault :=
  if config.width = 0 || config.height = 0 then some (.zeroSize config.width config.height)
  else if config.output.text.isEmpty then some .emptyOutput
  else if (OutputFormat.ofName? config.format).isNone then some (.unknownFormat config.format)
  else none

/-! ### Environment variables -/

/-- Why environment variables cannot be applied. -/
inductive OverrideFault where
  | badNumber (name value : String) (fault : NumeralFault)
  | unknownMetric (name value : String)
  | invalid (fault : Fault)
  deriving DecidableEq, Repr

/-- The wording of a fault. -/
def OverrideFault.message : OverrideFault → String
  | .badNumber name value fault =>
    "Invalid " ++ Environment.fullName name ++ ": " ++ value ++ ": " ++ fault.message
  | .unknownMetric name value => "Invalid " ++ Environment.fullName name ++ ": " ++ value
  | .invalid fault => "Invalid configuration after environment overrides: " ++ fault.message

/-- The length of a side, with blanks around it. -/
def pixels (name value : String) : Except OverrideFault UInt32 :=
  match Numeral.word32 (Text.trim value.toList) with
  | .ok n => .ok n
  | .error fault => .error (.badNumber name value fault)

/-- The choice of metrics with a name. -/
def selection (name value : String) : Except OverrideFault Selection :=
  match Selection.ofName? value with
  | some selection => .ok selection
  | none => .error (.unknownMetric name value)

/-- One setting after another variable: the state after it, or the fault that it has. -/
abbrev Override := Config → Except OverrideFault Config

/-- Sets a value that may be missing and may have to be read. -/
def override {α : Type} (value : Option String) (read : String → Except OverrideFault α)
    (set : Config → α → Config) : Override := fun config =>
  match value with
  | none => .ok config
  | some text => (read text).map (set config)

/-- The overrides of the environment, in order. -/
def overrides (e : Environment) : List Override :=
  [override e.title .ok fun config title => { config with title },
    override e.output .ok fun config output => { config with output := ⟨output⟩ },
    override e.width (pixels "WIDTH") fun config width => { config with width },
    override e.height (pixels "HEIGHT") fun config height => { config with height },
    override e.metric (selection "METRIC") fun config metrics => { config with metrics },
    override e.format .ok fun config format => { config with format }]

/-- The settings after overrides, and the first fault; the overrides after it have no effect. -/
def applyEach (config : Config) : List Override → Config × Option OverrideFault
  | [] => (config, none)
  | next :: rest =>
    match next config with
    | .ok config => applyEach config rest
    | .error fault => (config, some fault)

/-- The settings after the environment was applied, and what is wrong with it. -/
def applyEnvironment (config : Config) (e : Environment) : Config × Option OverrideFault :=
  match applyEach config (overrides e) with
  | (config, none) => (config, config.fault?.map .invalid)
  | failed => failed

/-! ### Use -/

/-- The options of a chart. -/
def chartOptions (config : Config) : ChartOptions where
  title := config.title
  width := config.width
  height := config.height
  metrics := config.metrics

/-- The format in which runs are printed; the table if the name is unknown. -/
def outputFormat (config : Config) : OutputFormat :=
  (OutputFormat.ofName? config.format).getD .table

end Config

end BenchCompare
