import BenchCompare.Files.View
import BenchCompare.Settings.Json
import BenchCompare.Settings.Yaml

/-!
# Loading settings

Settings files are in YAML if their extension says so, and in JSON otherwise.  The file is the one
that the command line names, or else the one that the environment names, or else the first of the
usual places where there is a file.  Without any file the defaults hold.  Settings from a file must
be valid before anything else is applied to them.
-/

namespace BenchCompare

namespace Config

/-- The settings in the format that a path asks for. -/
def textFor (config : Config) (path : Path) : String :=
  if path.isYaml then config.toYaml else config.toJson.render .indented

/-- Why settings cannot be loaded from a file. -/
inductive LoadCause where
  | unreadable (fault : FileFault)
  | badYaml
  | badJson (fault : JsonFault)
  | invalid (fault : Fault)
  deriving DecidableEq, Repr

/-- The file from which settings could not be loaded, and why. -/
structure LoadFault where
  path : Path
  cause : LoadCause
  deriving DecidableEq, Repr

/-- The wording of a fault. -/
def LoadFault.message (fault : LoadFault) : String :=
  match fault.cause with
  | .unreadable cause =>
    "Failed to read config file: " ++ fault.path.text ++ ": " ++ cause.message
  | .badYaml => "Failed to parse YAML config: " ++ fault.path.text ++ ": yaml"
  | .badJson cause =>
    "Failed to parse JSON config: " ++ fault.path.text ++ ": " ++ cause.message
  | .invalid cause => "Invalid config file: " ++ fault.path.text ++ ": " ++ cause.message

/-- Reads the settings in a text, in the format that the path asks for. -/
def readSettings (path : Path) (text : String) : Except LoadCause FileSettings :=
  if path.isYaml then
    match FileSettings.ofYaml? text with
    | some settings => .ok settings
    | none => .error .badYaml
  else
    match FileSettings.ofJson text with
    | .ok settings => .ok settings
    | .error fault => .error (.badJson fault)

/-- The settings in a text, on top of the defaults. -/
def parse (path : Path) (text : String) : Except LoadCause Config :=
  match readSettings path text with
  | .error cause => .error cause
  | .ok settings =>
    let config := ofFile settings
    match config.fault? with
    | some fault => .error (.invalid fault)
    | none => .ok { config with source := some path }

/-- Loads settings from a file. -/
def load (files : FileView) (path : Path) : Except LoadFault Config :=
  match files.readText path with
  | .error fault => .error { path, cause := .unreadable fault }
  | .ok text =>
    match parse path text with
    | .error cause => .error { path, cause }
    | .ok config => .ok config

/-- The usual places for a settings file, the preferred one first. -/
def locations (home : Path) : List Path :=
  ["./wrk-compare.yaml", "./.wrk-compare.yaml", "~/.config/wrk-compare/config.yaml"].map
    fun text => Path.expandHome ⟨text⟩ home

/-- The first of the usual places where there is a file. -/
def find? (files : FileView) (home : Path) : Option Path :=
  (locations home).find? files.isFile

/-- Loads settings from a file, or from the first of the usual places if no file is named. -/
def loadOrDefault (files : FileView) (home : Path) (path : Option Path) :
    Except LoadFault Config :=
  match path.or (find? files home) with
  | some path => load files path
  | none => .ok {}

/-! ### All sources together -/

/-- Why there are no settings. -/
inductive SettingsFault where
  | load (fault : LoadFault)
  | environment (fault : OverrideFault)
  deriving DecidableEq, Repr

/-- The wording of a fault. -/
def SettingsFault.message : SettingsFault → String
  | .load fault => fault.message
  | .environment fault => fault.message

/-- The settings from a file and from the environment; `named` is the file that the command line
names. -/
def resolve (files : FileView) (home : Path) (named : Option Path) (e : Environment) :
    Except SettingsFault Config :=
  match loadOrDefault files home (named.or (e.configFile.map Path.mk)) with
  | .error fault => .error (.load fault)
  | .ok config =>
    match config.applyEnvironment e with
    | (config, none) => .ok config
    | (_, some fault) => .error (.environment fault)

end Config

end BenchCompare
