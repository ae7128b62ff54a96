import BenchCompare.Chart.Metric
import BenchCompare.Input.Spec
import BenchCompare.Output.Format

/-!
# Arguments of the command line

The program has three commands.  Each accepts some *flags*, which stand alone, and some *options*,
which take a value; two of the commands also take inputs.  An option can be given once, and its
value has to make sense.
-/

namespace BenchCompare.Command

/-- Where in the command line an argument stands: before the command, or after it. -/
inductive Level where
  | top
  | chart
  | print
  | config
  deriving DecidableEq, Repr

/-- An argument that stands alone. -/
inductive Flag where
  | verbose
  | sample
  | environment
  | help
  | version
  deriving DecidableEq, Repr

/-- An argument that takes a value. -/
inductive OptionName where
  | config
  | output
  | metric
  | title
  | width
  | height
  | format
  deriving DecidableEq, Repr

/-- An argument that begins with a dash. -/
inductive Switch where
  | flag (flag : Flag)
  | option (name : OptionName)
  deriving DecidableEq, Repr

/-- Why a command line cannot be used. -/
inductive UsageFault where
  | helpWanted
  | versionWanted
  /-- Nothing was given at all. -/
  | nothingGiven
  | missingCommand
  | unknownCommand
  | unknownArgument
  | valueForFlag
  /-- An option has no value, or an empty one. -/
  | missingValue
  | givenTwice
  | missingInputs
  /-- A value makes no sense: the value, the argument that it was given to, and the reason. -/
  | badValue (value argument reason : String)
  deriving DecidableEq, Repr

/-- The name and version of the program. -/
def versionText : String := "wrk-compare 0.1.0\n"

namespace UsageFault

/-- The status with which the program ends: asking for help or for the version is no failure. -/
def exitCode : UsageFault → Nat
  | .helpWanted | .versionWanted => 0
  | _ => 2

/-- The first line of a text. -/
def firstLine (text : List Char) : List Char :=
  let line := text.takeWhile (· != '\n')
  if line.getLast? == some '\r' && line.length < text.length then line.dropLast else line

/-- The wording of a fault, in one line. -/
def message : UsageFault → String
  | .helpWanted => "help was asked for"
  | .versionWanted => "the version was asked for"
  | .nothingGiven | .missingCommand => "error: a command is required"
  | .unknownCommand => "error: unrecognized command"
  | .unknownArgument => "error: unexpected argument"
  | .valueForFlag => "error: a flag takes no value"
  | .missingValue => "error: a value is required"
  | .givenTwice => "error: an argument cannot be used several times"
  | .missingInputs => "error: at least one input is required"
  | .badValue value argument reason =>
    String.ofList <| firstLine <|
      ("error: invalid value '" ++ value ++ "' for '" ++ argument ++ "': " ++ reason).toList

end UsageFault

/-! ### Names -/

/-- The arguments that every command accepts, by their long names. -/
def commonSwitches : List (String × Switch) :=
  [("verbose", .flag .verbose), ("config", .option .config), ("help", .flag .help)]

/-- The arguments of a level, by their long names. -/
def Level.longSwitches : Level → List (String × Switch)
  | .top => ("version", .flag .version) :: commonSwitches
  | .chart =>
    [("output", .option .output), ("metric", .option .metric), ("title", .option .title),
      ("width", .option .width), ("height", .option .height)] ++ commonSwitches
  | .print => ("format", .option .format) :: commonSwitches
  | .config => [("example", .flag .sample), ("env", .flag .environment)] ++ commonSwitches

/-- The short names that every command accepts. -/
def commonLetters : List (Char × Switch) :=
  [('v', .flag .verbose), ('h', .flag .help)]

/-- The arguments of a level, by their short names. -/
def Level.shortSwitches : Level → List (Char × Switch)
  | .top => ('V', .flag .version) :: commonLetters
  | .chart =>
    [('o', .option .output), ('m', .option .metric), ('t', .option .title)] ++ commonLetters
  | .print => ('f', .option .format) :: commonLetters
  | .config => commonLetters

/-- Whether a command takes inputs. -/
def Level.takesInputs : Level → Bool
  | .chart | .print => true
  | .top | .config => false

/-- The command with a name. -/
def Level.ofName? : String → Option Level
  | "chart" => some .chart
  | "show" => some .print
  | "config" => some .config
  | _ => none

/-- An option as messages show it. -/
def OptionName.shown : OptionName → String
  | .config => "--config <FILE>"
  | .output => "--output <FILE>"
  | .metric => "--metric <METRIC>"
  | .title => "--title <TITLE>"
  | .width => "--width <WIDTH>"
  | .height => "--height <HEIGHT>"
  | .format => "--format <FORMAT>"

/-- The inputs as messages show them. -/
def inputsShown : String := "<[LABEL=]PATH>..."

/-! ### Values -/

/-- The arguments given at one level. -/
structure Given where
  flags : List Flag := []
  config : Option Path := none
  output : Option Path := none
  metric : Option Selection := none
  title : Option String := none
  width : Option UInt32 := none
  height : Option UInt32 := none
  format : Option OutputFormat := none
  inputs : List InputSpec := []
  deriving DecidableEq, Repr

namespace Given

/-- Whether an option was given. -/
def hasOption (given : Given) : OptionName → Bool
  | .config => given.config.isSome
  | .output => given.output.isSome
  | .metric => given.metric.isSome
  | .title => given.title.isSome
  | .width => given.width.isSome
  | .height => given.height.isSome
  | .format => given.format.isSome

/-- Reads a path, which must not be empty. -/
def readPath (text : String) : Except UsageFault Path :=
  if text.isEmpty then .error .missingValue else .ok ⟨text⟩

/-- Reads a choice of metrics. -/
def readMetric (text : String) : Except UsageFault Selection :=
  match Selection.ofName? text with
  | some selection => .ok selection
  | none =>
    .error <| .badValue text OptionName.metric.shown <|
      "unknown metric '" ++ text ++ "' (expected rps, latency, p99, transfer, both or all)"

/-- Reads an output format. -/
def readFormat (text : String) : Except UsageFault OutputFormat :=
  match OutputFormat.ofName? text with
  | some format => .ok format
  | none =>
    .error <| .badValue text OptionName.format.shown <|
      "unknown format '" ++ text ++ "' (expected table, json, json-pretty, csv or markdown)"

/-- Reads the length of a side: a number with an optional sign, which must then fit in 32 bits. -/
def readPixels (name : OptionName) (text : String) : Except UsageFault UInt32 :=
  match Numeral.integer (UInt64.size / 2) (UInt64.size / 2 - 1) text.toList with
  | .error fault => .error (.badValue text name.shown fault.message)
  | .ok n =>
    if 0 ≤ n ∧ n < UInt32.size then .ok (UInt32.ofNat n.toNat)
    else
      .error <| .badValue text name.shown <|
        Numeral.integerText n ++ " is not in 0..=4294967295"

/-- Sets an option, which must not have been given before. -/
def setOption (given : Given) (name : OptionName) (text : String) : Except UsageFault Given :=
  if given.hasOption name then .error .givenTwice
  else
    match name with
    | .config => (readPath text).map fun x => { given with config := some x }
    | .output => (readPath text).map fun x => { given with output := some x }
    | .metric => (readMetric text).map fun x => { given with metric := some x }
    | .title => .ok { given with title := some text }
    | .width => (readPixels .width text).map fun x => { given with width := some x }
    | .height => (readPixels .height text).map fun x => { given with height := some x }
    | .format => (readFormat text).map fun x => { given with format := some x }

/-- Sets a flag, which must not have been given before; two flags ask for a text instead. -/
def setFlag (given : Given) (flag : Flag) : Except UsageFault Given :=
  match flag with
  | .help => .error .helpWanted
  | .version => .error .versionWanted
  | flag =>
    if given.flags.contains flag then .error .givenTwice
    else .ok { given with flags := flag :: given.flags }

/-- Reads an input. -/
def readInput (text : String) : Except UsageFault InputSpec :=
  match InputSpec.parse text with
  | .ok input => .ok input
  | .error fault => .error (.badValue text inputsShown fault.message)

/-- Adds inputs. -/
def addInputs (given : Given) (texts : List String) : Except UsageFault Given :=
  (texts.mapM readInput).map fun inputs => { given with inputs := given.inputs ++ inputs }

/-- Whether nothing was given. -/
def isEmpty (given : Given) : Bool :=
  given = {}

end Given

end BenchCompare.Command
