import BenchCompare.Command.Arguments

/-!
# The command line

The words of a command line are read from left to right.  A value is not looked at when it is met
but when the next argument is, or when the words end: until then it is *pending*.  So of two faults
the one that is settled first is reported, and a word that cannot be understood at all is reported
before the value in front of it is looked at.

The words after the name of a command belong to it; they are all read, and found complete, before
anything that is still pending in front of the command.
-/

namespace BenchCompare.Command

/-- What has been met but not looked at. -/
inductive Pending where
  | nothing
  /-- An option, and its value if that was met. -/
  | option (name : OptionName) (value : Option String)
  | inputs (texts : List String)
  deriving DecidableEq, Repr

/-- How far the words of a level have been read. -/
structure Progress where
  given : Given := {}
  pending : Pending := .nothing
  /-- Whether two dashes have been met, after which every word is an input. -/
  trailing : Bool := false
  deriving DecidableEq, Repr

/-- A word by its form. -/
inductive Word where
  | dashes
  | long (name : List Char) (value : Option (List Char))
  | short (letters : List Char)
  | plain
  deriving DecidableEq, Repr

/-- The form of a word. -/
def Word.ofText (text : String) : Word :=
  match text.toList with
  | ['-', '-'] => .dashes
  | '-' :: '-' :: rest =>
    match Text.cutAtChar? '=' rest with
    | some (name, value) => .long name (some value)
    | none => .long rest none
  | '-' :: c :: rest => .short (c :: rest)
  | _ => .plain

namespace Progress

/-- Looks at what is pending. -/
def settle (p : Progress) : Except UsageFault Progress :=
  match p.pending with
  | .nothing => .ok p
  | .option _ none => .error .missingValue
  | .option name (some text) =>
    (p.given.setOption name text).map fun given => { p with given, pending := .nothing }
  | .inputs texts =>
    (p.given.addInputs texts).map fun given => { p with given, pending := .nothing }

/-- Whether the next word is the value of an option, if it does not begin with a dash. -/
def awaitsValue (p : Progress) : Bool :=
  match p.pending with
  | .option _ none => true
  | _ => false

/-- Meets a flag. -/
def meetFlag (p : Progress) (flag : Flag) : Except UsageFault Progress := do
  let p ← p.settle
  return { p with given := ← p.given.setFlag flag }

/-- Meets an option whose value is the next word. -/
def meetOption (p : Progress) (name : OptionName) : Except UsageFault Progress := do
  return { ← p.settle with pending := .option name none }

/-- Meets an option with its value in the same word. -/
def meetValue (p : Progress) (name : OptionName) (value : List Char) :
    Except UsageFault Progress := do
  let p ← p.settle
  return { p with given := ← p.given.setOption name (String.ofList value) }

/-- Meets a word that begins with two dashes. -/
def meetLong (p : Progress) (level : Level) (name : List Char) (value : Option (List Char)) :
    Except UsageFault Progress :=
  match level.longSwitches.lookup (String.ofList name), value with
  | none, _ => .error .unknownArgument
  | some (.flag flag), none => p.meetFlag flag
  | some (.flag _), some _ => .error .valueForFlag
  | some (.option name), none => p.meetOption name
  | some (.option name), some value => p.meetValue name value

/-- The value after the letter of an option, which may have an equals sign in front of it. -/
def attachedValue : List Char → List Char
  | '=' :: value => value
  | value => value

/-- Meets a word of letters after one dash. -/
def meetShort (level : Level) : Progress → List Char → Except UsageFault Progress
  | p, [] => .ok p
  | p, letter :: rest =>
    match level.shortSwitches.lookup letter with
    | none => .error .unknownArgument
    | some (.flag flag) =>
      match p.meetFlag flag with
      | .ok p => meetShort level p rest
      | .error fault => .error fault
    | some (.option name) =>
      if rest.isEmpty then p.meetOption name else p.meetValue name (attachedValue rest)

/-- Meets a word that is neither a switch nor the value of one. -/
def meetInput (p : Progress) (level : Level) (text : String) : Except UsageFault Progress :=
  if level.takesInputs then
    match p.pending with
    | .inputs texts => .ok { p with pending := .inputs (texts ++ [text]) }
    | _ => p.settle.map fun p => { p with pending := .inputs [text] }
  else if level ≠ .top then .error .unknownArgument
  else if p.trailing && (text == "help" || (Level.ofName? text).isSome) then
    .error .unknownArgument
  else .error .unknownCommand

/-- Meets a word. -/
def meet (level : Level) (p : Progress) (text : String) : Except UsageFault Progress :=
  if p.trailing then p.meetInput level text
  else
    match Word.ofText text with
    | .dashes => .ok { p with trailing := true }
    | .long name value => p.meetLong level name value
    | .short letters => meetShort level p letters
    | .plain =>
      match p.pending with
      | .option name none => .ok { p with pending := .option name (some text) }
      | _ => p.meetInput level text

end Progress

/-! ### Commands -/

/-- The arguments of the command that draws a chart. -/
structure ChartArguments where
  inputs : List InputSpec
  output : Option Path := none
  metric : Option Selection := none
  title : Option String := none
  width : Option UInt32 := none
  height : Option UInt32 := none
  deriving DecidableEq, Repr

/-- A command with its arguments. -/
inductive Action where
  | chart (arguments : ChartArguments)
  | print (inputs : List InputSpec) (format : Option OutputFormat)
  /-- Shows an example of settings, the environment variables, or the settings. -/
  | config (sample environment : Bool)
  deriving DecidableEq, Repr

/-- A command line. -/
structure Line where
  verbose : Bool
  config : Option Path
  action : Action
  deriving DecidableEq, Repr

/-- The command of a level; there is none without a command name. -/
def actionOf (level : Level) (given : Given) : Except UsageFault Action :=
  match level with
  | .top => .error .missingCommand
  | .chart =>
    if given.inputs.isEmpty then .error .missingInputs
    else
      .ok <| .chart
        { inputs := given.inputs
          output := given.output
          metric := given.metric
          title := given.title
          width := given.width
          height := given.height }
  | .print =>
    if given.inputs.isEmpty then .error .missingInputs
    else .ok (.print given.inputs given.format)
  | .config => .ok (.config (given.flags.contains .sample) (given.flags.contains .environment))

/-- Reads all words of a level. -/
def readAll (level : Level) (words : List String) : Except UsageFault Given := do
  let p ← words.foldlM (Progress.meet level) {}
  return (← p.settle).given

/-- Reads the words after the name of a command, to the end. -/
def readAction (level : Level) (words : List String) : Except UsageFault (Given × Action) := do
  let given ← readAll level words
  return (given, ← actionOf level given)

/-- The fault of asking for help about some names. -/
def helpFault : List String → UsageFault
  | [] => .helpWanted
  | [name] =>
    if name == "help" || (Level.ofName? name).isSome then .helpWanted else .unknownCommand
  | _ => .unknownCommand

/-- The whole command line; what was given after the command comes first. -/
def combine (top sub : Given) (action : Action) : Line where
  verbose := sub.flags.contains .verbose || top.flags.contains .verbose
  config := sub.config.or top.config
  action := action

/-- The fault of a command line without a command. -/
def withoutCommand (p : Progress) : UsageFault :=
  match p.settle with
  | .error fault => fault
  | .ok p => if p.given.isEmpty then .nothingGiven else .missingCommand

/-- Reads the words from the beginning up to the name of the command, and then the others. -/
def readTop (p : Progress) : List String → Except UsageFault Line
  | [] => .error (withoutCommand p)
  | word :: rest =>
    if p.trailing || p.awaitsValue then do readTop (← p.meet .top word) rest
    else if word = "help" then .error (helpFault rest)
    else
      match Level.ofName? word with
      | none => do readTop (← p.meet .top word) rest
      | some level => do
        let (sub, action) ← readAction level rest
        return combine (← p.settle).given sub action

/-- Reads a command line without the name of the program. -/
def parse (words : List String) : Except UsageFault Line :=
  readTop {} words

end BenchCompare.Command
