import BenchCompare.Chart.Bars
import BenchCompare.Command.Help
import BenchCompare.Command.Run
import BenchCompare.Files.Readings
import BenchCompare.Logging
import Std.Time.DateTime.Timestamp

/-!
# The program

The program reads the words of its command line, the environment variables, the clock and the files
that its command needs, runs the command, and then prints and writes what comes of it.  Warnings and
faults go to the standard error output.
-/

namespace BenchCompare.Program

/-! ### Reading -/

/-- The fault that a failed system call stands for.  The numbers of errors may come negated. -/
def systemFault (code : UInt32) (details : String) : FileFault :=
  match min code.toNat (UInt32.size - code.toNat) with
  | 2 => .notFound
  | 20 => .notDirectory
  | 21 => .isDirectory
  | 36 => .nameTooLong
  | number => .refused (details ++ " (os error " ++ Numeral.text number ++ ")")

/-- The fault that an error stands for. -/
def faultOf (error : IO.Error) : FileFault :=
  match error with
  | .noFileOrDirectory _ code details => systemFault code details
  | .inappropriateType _ code details => systemFault code details
  | .invalidArgument _ code details => systemFault code details
  | .permissionDenied _ code details => systemFault code details
  | error => .refused (toString error)

/-- Reads the text at a path. -/
def readText (path : Path) : IO (Except FileFault String) := do
  if path.text.toList.contains '\x00' then return .error .nulInPath
  try
    let bytes ← IO.FS.readBinFile path.text
    match String.fromUTF8? bytes with
    | some text => return .ok text
    | none => return .error .notText
  catch error => return .error (faultOf error)

/-- Reads the texts at some paths. -/
def readAll (paths : List Path) : IO FileReadings := do
  return { found := ← paths.mapM fun path => return (path, ← readText path) }

/-- The home directory; without one, paths in it stay as they are written. -/
def home : IO Path := do
  match ← IO.getEnv "HOME" with
  | some text => return ⟨if text.isEmpty then "~" else text⟩
  | none => return ⟨"~"⟩

/-- The settings in the environment variables. -/
def environment : IO Environment := do
  let names := ({} : Environment).entries.map fun entry => Environment.fullName entry.1
  let values ← names.mapM fun name => return (name, ← IO.getEnv name)
  return .ofVariables fun name => (values.lookup name).join

/-- The time of day. -/
def now : IO String := do
  let moment ← Std.Time.Timestamp.now
  return (Timestamp.ofEpoch moment.toNanosecondsSinceUnixEpoch.val.toNat).universalText

/-! ### Running -/

/-- The paths at which settings are looked for. -/
def settingsPaths (home : Path) (line : Command.Line) (e : Environment) : List Path :=
  (line.config.or (e.configFile.map Path.mk)).toList ++ Config.locations home

/-- The paths that a command needs besides, once the settings are known. -/
def actionPaths (action : Command.Action) (config : Config) : List Path :=
  match action with
  | .chart arguments =>
    arguments.inputs.map InputSpec.path
      ++ (Command.chartSettings arguments config).output.parent?.toList
  | .print inputs _ => inputs.map InputSpec.path
  | .config _ _ => []

/-- The files that a command needs, and what else it depends on. -/
def settingFor (line : Command.Line) : IO Command.Setting := do
  let home ← home
  let environment ← environment
  let settings ← readAll (settingsPaths home line environment)
  let others ←
    match Config.resolve settings.view home line.config environment with
    | .ok config => readAll (actionPaths line.action config)
    | .error _ => pure { found := [] }
  let readings : FileReadings := { found := settings.found ++ others.found }
  return { files := readings.view, home, environment, now := ← now }

/-- Writes a picture. -/
def writePicture (path : Path) (drawing : Drawing) : IO (Option Command.Fault) := do
  try
    IO.FS.writeBinFile path.text drawing.bytes
    return none
  catch _ => return some (.chart path .drawing)

/-- A warning in one line. -/
def warningText (warning : LabelWarning) : String :=
  let label :=
    match warning with
    | .ignored label count => label ++ " (" ++ Numeral.text count ++ " results)"
    | .duplicate label => label
  "WARN " ++ warning.message ++ ": " ++ label

/-- Runs a command, and gives the status with which the program ends. -/
def runLine (line : Command.Line) : IO UInt32 := do
  let setting ← settingFor line
  let outcome := Command.run setting line
  let filter := LogFilter.build (if line.verbose then .debug else .info) setting.environment.log
  if filter.shows .warn then
    for warning in outcome.warnings do
      IO.eprintln (warningText warning)
  let unwritten ←
    match outcome.picture with
    | some (path, drawing) => writePicture path drawing
    | none => pure none
  match outcome.fault.or unwritten with
  | some fault =>
    IO.eprintln ("Error: " ++ fault.message)
    return 1
  | none =>
    IO.print outcome.printed
    return 0

/-- Says why a command line cannot be used, and gives the status with which the program ends. -/
def refuse (fault : Command.UsageFault) : IO UInt32 := do
  match fault with
  | .helpWanted => IO.print Command.helpText
  | .versionWanted => IO.print Command.versionText
  | .nothingGiven => IO.eprint Command.helpText
  | fault => IO.eprintln fault.message
  return UInt32.ofNat fault.exitCode

end BenchCompare.Program

/-- Runs the program with the words of its command line. -/
def main (words : List String) : IO UInt32 :=
  match BenchCompare.Command.parse words with
  | .error fault => BenchCompare.Program.refuse fault
  | .ok line => BenchCompare.Program.runLine line
