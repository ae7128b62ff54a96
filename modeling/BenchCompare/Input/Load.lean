import BenchCompare.Files.View
import BenchCompare.Input.Spec
import BenchCompare.Json.Reader
import BenchCompare.Report.Basic
import BenchCompare.Run.Json

/-!
# Loading inputs

An input is a report or a file of saved runs, depending on the extension of its path.  A report
gives one run, labelled as the input says or else by the name of the file.  Saved runs keep their
labels, except that a single run is relabelled if the input has a label.

Inputs are loaded in order up to the first one that fails.  Loading gives warnings as well: about
labels that are ignored, input by input, and in the end about labels that occur again.
-/

namespace BenchCompare

/-- Something about the labels that is worth knowing. -/
inductive LabelWarning where
  | ignored (label : String) (count : Nat)
  | duplicate (label : String)
  deriving DecidableEq, Repr

/-- The wording of a warning. -/
def LabelWarning.message : LabelWarning → String
  | .ignored _ _ => "Label ignored for a file with several results"
  | .duplicate _ => "Duplicate label; bars will share a name"

namespace Input

/-- Why an input cannot be loaded. -/
inductive Cause where
  | unreadable (path : Path) (fault : FileFault)
  | report (fault : Report.Fault)
  | badJson (path : Path) (fault : JsonFault)
  | invalidRun (path : Path) (fault : Run.Fault)
  deriving DecidableEq

/-- The wording of a cause. -/
def Cause.message : Cause → String
  | .unreadable path .notFound =>
    "Results file not found: " ++ path.text ++ ": " ++ FileFault.notFound.message
  | .unreadable path fault =>
    "Failed to read results file " ++ path.text ++ ": " ++ fault.message
  | .report fault => fault.message
  | .badJson path fault => "Failed to parse JSON results: " ++ path.text ++ ": " ++ fault.message
  | .invalidRun path fault => "Invalid result in " ++ path.text ++ ": " ++ fault.message

/-- The input that could not be loaded, and why. -/
structure Fault where
  input : InputSpec
  cause : Cause
  deriving DecidableEq

/-- The wording of a fault. -/
def Fault.message (fault : Fault) : String :=
  "Failed to load input '" ++ fault.input.display ++ "': " ++ fault.cause.message

/-! ### Files of saved runs -/

/-- Reads a text of saved runs.  A text whose value has another shape is reported as such even if
more text follows the value. -/
def parseSaved (text : String) : Except JsonFault (List Run) :=
  match Json.read? text with
  | none => .error .malformed
  | some (value, rest) =>
    match Run.savedOfJson? value with
    | none => .error .wrongShape
    | some runs => if rest.isEmpty then .ok runs else .error .malformed

/-- Reads the saved runs of a file, which all have to be valid. -/
def readSaved (path : Path) (text : String) : Except Cause (List Run) :=
  match parseSaved text with
  | .error fault => .error (.badJson path fault)
  | .ok runs =>
    match runs.findSome? Run.fault? with
    | some fault => .error (.invalidRun path fault)
    | none => .ok runs

/-- The saved runs of an input, relabelled if there is a label and exactly one run. -/
def relabel (input : InputSpec) (runs : List Run) : List Run :=
  match input.label, runs with
  | some label, [run] => [{ run with label }]
  | _, runs => runs

/-- The warning about a label that is ignored because there is not exactly one saved run. -/
def ignoredLabel (input : InputSpec) (runs : List Run) : List LabelWarning :=
  match input.label with
  | some label => if runs.length = 1 then [] else [.ignored label runs.length]
  | none => []

/-! ### Inputs -/

/-- The stored runs of an input, before any relabelling. -/
def stored (input : InputSpec) (text : String) : Except Cause (List Run) :=
  if input.isSaved then readSaved input.path text
  else
    match Report.parse text (input.label.getD input.path.defaultLabel) with
    | .ok run => .ok [run]
    | .error fault => .error (.report fault)

/-- The runs of one input with the warnings about it. -/
structure Loaded where
  runs : List Run
  warnings : List LabelWarning
  deriving DecidableEq

/-- Loads one input. -/
def load (files : FileView) (input : InputSpec) : Except Cause Loaded :=
  match files.readText input.path with
  | .error fault => .error (.unreadable input.path fault)
  | .ok text =>
    match stored input text with
    | .error cause => .error cause
    | .ok runs =>
      if input.isSaved then .ok ⟨relabel input runs, ignoredLabel input runs⟩ else .ok ⟨runs, []⟩

/-- How loading several inputs went: the runs or the first fault, and the warnings in any case. -/
structure Loading where
  outcome : Except Fault (List Run)
  warnings : List LabelWarning

/-- Loads inputs up to the first one that fails. -/
def loadEach (files : FileView) : List InputSpec → Loading
  | [] => { outcome := .ok [], warnings := [] }
  | input :: rest =>
    match load files input with
    | .error cause => { outcome := .error { input, cause }, warnings := [] }
    | .ok loaded =>
      let later := loadEach files rest
      { outcome := later.outcome.map (loaded.runs ++ ·)
        warnings := loaded.warnings ++ later.warnings }

/-- The warnings about labels that occur again; `seen` are the labels of earlier runs. -/
def duplicateLabels (seen : List String) : List Run → List LabelWarning
  | [] => []
  | run :: rest =>
    if seen.contains run.label then .duplicate run.label :: duplicateLabels seen rest
    else duplicateLabels (run.label :: seen) rest

/-- Loads all inputs. -/
def loadAll (files : FileView) (inputs : List InputSpec) : Loading :=
  let loading := loadEach files inputs
  match loading.outcome with
  | .error _ => loading
  | .ok runs => { loading with warnings := loading.warnings ++ duplicateLabels [] runs }

end Input

end BenchCompare
