import BenchCompare.Path
import BenchCompare.Text.Quoted

/-!
# Inputs on the command line

An input is written as a path, or as a label, an equals sign and a path.  The first equals sign
decides, so a path can contain others but a label cannot.
-/

namespace BenchCompare

/-- An input: a path and the label that its run is to have. -/
structure InputSpec where
  label : Option String
  path : Path
  deriving DecidableEq, Repr

namespace InputSpec

/-- Why a text is no input. -/
inductive Fault where
  | empty
  | missingLabel (text : String)
  | missingPath (text : String)
  deriving DecidableEq, Repr

/-- The wording of a fault. -/
def Fault.message : Fault → String
  | .empty => "input must not be empty"
  | .missingLabel text => "missing label before '=' in " ++ Text.quoted text
  | .missingPath text => "missing path after '=' in " ++ Text.quoted text

/-- Reads an input. -/
def parse (text : String) : Except Fault InputSpec :=
  let trimmed := Text.trim text.toList
  if trimmed.isEmpty then .error .empty
  else
    match Text.cutAtChar? '=' trimmed with
    | none => .ok { label := none, path := ⟨String.ofList trimmed⟩ }
    | some (before, after) =>
      let label := Text.trim before
      let path := Text.trim after
      if label.isEmpty then .error (.missingLabel (String.ofList trimmed))
      else if path.isEmpty then .error (.missingPath (String.ofList trimmed))
      else .ok { label := some (String.ofList label), path := ⟨String.ofList path⟩ }

/-- An input as it is written. -/
def display (input : InputSpec) : String :=
  match input.label with
  | some label => label ++ "=" ++ input.path.text
  | none => input.path.text

/-- Whether an input holds saved runs rather than a report. -/
def isSaved (input : InputSpec) : Bool :=
  input.path.hasExtension "json"

end InputSpec

/-- The label of a run that was given none: the name of its file without the extension, or else the
whole path. -/
def Path.defaultLabel (path : Path) : String :=
  match path.stem? with
  | some stem => if stem.isEmpty then path.text else String.ofList stem
  | none => path.text

end BenchCompare
