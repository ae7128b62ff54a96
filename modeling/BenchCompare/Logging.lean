import BenchCompare.Numeral
import BenchCompare.Text.Basic

/-!
# Log filters

A filter says which log messages are shown.  It is given by a *directive*: the name of a level,
which then holds for the messages of the program itself, or a target with a level, as in
`some_library=warn`.  A directive that cannot be read is replaced by the level that would hold
without it.
-/

namespace BenchCompare

/-- The level of a log message. -/
inductive LogLevel where
  | trace
  | debug
  | info
  | warn
  | error
  deriving DecidableEq, Repr

namespace LogLevel

/-- The name of a level. -/
def name : LogLevel → String
  | .trace => "trace"
  | .debug => "debug"
  | .info => "info"
  | .warn => "warn"
  | .error => "error"

/-- The level with a name, which may be in any case. -/
def ofName? (name : String) : Option LogLevel :=
  match Text.lowerName name with
  | "trace" => some .trace
  | "debug" => some .debug
  | "info" => some .info
  | "warn" | "warning" => some .warn
  | "error" => some .error
  | _ => none

/-- How serious messages of a level are. -/
def severity : LogLevel → Nat
  | .trace => 0
  | .debug => 1
  | .info => 2
  | .warn => 3
  | .error => 4

end LogLevel

/-- Which log messages are shown. -/
structure LogFilter where
  /-- Only messages from this part of the program. -/
  target : Option String := none
  /-- Only messages from within this span. -/
  span : Option String := none
  /-- The least level that is shown; `none` shows nothing. -/
  level : Option LogLevel
  deriving DecidableEq, Repr

namespace LogFilter

/-- The target of the messages of the program itself. -/
def ownTarget : String := "wrk_compare"

/-- A level for the messages of the program itself. -/
def own (level : LogLevel) : LogFilter where
  target := some ownTarget
  level := some level

/-- The text of a filter. -/
def text (filter : LogFilter) : String :=
  let level := (filter.level.map LogLevel.name).getD "off"
  let span := (filter.span.map fun s => "[" ++ s ++ "]").getD ""
  let place := filter.target.getD "" ++ span
  if filter.target.isNone && filter.span.isNone then level else place ++ "=" ++ level

/-- The level that a word of a directive stands for: a name, or a number from zero, which shows
nothing, to five, which shows everything. -/
def levelWord? (word : List Char) : Option (Option LogLevel) :=
  match Numeral.natural (UInt64.size - 1) word with
  | .ok n => [none, some .error, some .warn, some .info, some .debug, some LogLevel.trace][n]?
  | .error _ =>
    [("error", some LogLevel.error), ("warn", some .warn), ("info", some .info),
      ("debug", some .debug), ("trace", some .trace), ("off", none)].findSome? fun entry =>
        if Text.sameLetters entry.1.toList word then some entry.2 else none

/-- The level after the equals sign of a directive; everything if there is no word. -/
def levelAfter? (word : List Char) : Option (Option LogLevel) :=
  if word.isEmpty then some (some .trace) else levelWord? word

/-- Whether a directive may begin with a character. -/
def mayBegin (c : Char) : Bool :=
  c.isAlphanum || c == '-' || c == ':' || c == '_' || c == '[' || 128 ≤ c.toNat

/-- The part of a text from one position up to another one. -/
def slice (text : List Char) (first last : Nat) : String :=
  String.ofList ((text.take last).drop first)

/-- Reads a directive with a span, which begins after the given position. -/
def withSpan? (text trimmed : List Char) (start : Nat) : Option LogFilter := do
  let target := if start = 0 then none else some (slice text 0 start)
  let close ← (trimmed.drop (start + 1)).findIdx? fun c => c == ']' || c == '\x7b'
  let close := start + 1 + close
  if trimmed[close]? ≠ some ']' then none
  else
    let span := some (slice text (start + 1) close)
    match trimmed[close + 1]? with
    | none => some { target, span, level := some .trace }
    | some c =>
      if c = '=' then (levelAfter? (text.drop (close + 2))).map fun level => { target, span, level }
      else none

/-- Reads a directive.  The marks in it are looked for without the blanks at its ends, but its parts
are counted from the beginning of the whole text. -/
def directive? (text : List Char) : Option LogFilter :=
  if text.isEmpty then some { level := some .error }
  else
    let trimmed := Text.trim text
    match trimmed with
    | [] => none
    | first :: _ =>
      if !mayBegin first then none
      else
        match trimmed.findIdx? fun c => c == '=' || c == '[' with
        | none =>
          match levelWord? text with
          | some level => some { level }
          | none => some { target := some (String.ofList text), level := some .trace }
        | some position =>
          if trimmed[position]? = some '=' then
            (levelAfter? (text.drop (position + 1))).map fun level =>
              { target := some (slice text 0 position), level }
          else withSpan? text trimmed position

/-- The filter for a level, or for a directive if there is one. -/
def build (level : LogLevel) : Option String → LogFilter
  | none => own level
  | some directive =>
    match LogLevel.ofName? (String.ofList (Text.trim directive.toList)) with
    | some named => own named
    | none => (directive? directive.toList).getD (own level)

/-- Whether messages of the program itself are shown.  They belong to no span. -/
def shows (filter : LogFilter) (level : LogLevel) : Bool :=
  filter.span.isNone
    && filter.target.all (fun target => target.toList.isPrefixOf ownTarget.toList)
    && filter.level.any fun least => least.severity ≤ level.severity

end LogFilter

end BenchCompare
