import BenchCompare.Json.Printer
import BenchCompare.Json.Reader
import BenchCompare.Json.Skip
import BenchCompare.Settings.Config

/-!
# Settings in JSON

A settings file is an object, or an array of the leading settings in their usual order.  Settings
are taken while the text is read, so the first problem decides, whether the text is malformed there
or a value has the wrong shape.  Members that name no setting are passed over.
-/

namespace BenchCompare

namespace Json

/-- What was found, or else the fault of a malformed text. -/
def orMalformed {α : Type} : Option α → Except JsonFault α
  | some found => .ok found
  | none => .error .malformed

/-- The fault of a text where a value of another kind was wanted.  Only simple values are looked at
closely enough to find them malformed. -/
def otherKind (cs : List Char) : JsonFault :=
  match cs with
  | [] => .malformed
  | c :: _ =>
    if c = '[' || c = '\x7b' then .wrongShape
    else if (value? 0 cs).isSome then .wrongShape
    else .malformed

/-- Reads a text. -/
def readText (cs : List Char) : Except JsonFault (String × List Char) :=
  match skipSpace cs with
  | '"' :: rest =>
    orMalformed ((textBody? rest).map fun (body, rest) => (String.ofList body, rest))
  | cs => .error (otherKind cs)

/-- Reads a whole number of 32 bits. -/
def readCount32 (cs : List Char) : Except JsonFault (UInt32 × List Char) :=
  let cs := skipSpace cs
  if cs.head?.any fun c => c == '-' || c.isDigit then
    match number? cs with
    | none => .error .malformed
    | some (value, rest) =>
      match value.asCount32? with
      | some n => .ok (n, rest)
      | none => .error .wrongShape
  else .error (otherKind cs)

/-- The text after a mark, which may have blanks in front of it. -/
def afterMark (mark : Char) (cs : List Char) : Except JsonFault (List Char) :=
  match skipSpace cs with
  | [] => .error .malformed
  | c :: rest => if c = mark then .ok rest else .error .malformed

/-- Reads the value `null`. -/
def readNull (cs : List Char) : Except JsonFault (List Char) :=
  let cs := skipSpace cs
  if cs.head? == some 'n' then orMalformed (afterWord? "null" cs) else .error (otherKind cs)

/-- Reads the name of a choice of metrics. -/
def readSelectionName (cs : List Char) : Except JsonFault (Selection × List Char) :=
  match readText cs with
  | .error fault => .error fault
  | .ok (key, rest) =>
    match Selection.ofKey? key with
    | some selection => .ok (selection, rest)
    | none => .error .wrongShape

/-- Reads a choice of metrics: its name, or an object with that name for a key and no value. -/
def readSelection (cs : List Char) : Except JsonFault (Selection × List Char) :=
  match skipSpace cs with
  | '"' :: rest => readSelectionName ('"' :: rest)
  | '\x7b' :: rest => do
    let (selection, rest) ← readSelectionName rest
    let rest ← afterMark '\x7d' (← readNull (← afterMark ':' rest))
    return (selection, rest)
  | _ => .error .malformed

end Json

namespace FileSettings

/-- Reads a value and stores it. -/
def store {α : Type} (read : List Char → Except JsonFault (α × List Char))
    (set : α → FileSettings) (cs : List Char) : Except JsonFault (FileSettings × List Char) :=
  (read cs).map fun (value, rest) => (set value, rest)

/-- Whether a setting is given already. -/
def isGiven (s : FileSettings) : String → Bool
  | "title" => s.title.isSome
  | "output" => s.output.isSome
  | "width" => s.width.isSome
  | "height" => s.height.isSome
  | "metric" => s.metrics.isSome
  | "format" => s.format.isSome
  | _ => false

/-- Reads the value of the setting with a name. -/
def readValue (s : FileSettings) (name : String) (cs : List Char) :
    Except JsonFault (FileSettings × List Char) :=
  match name with
  | "title" => store Json.readText (fun x => { s with title := some x }) cs
  | "output" => store Json.readText (fun x => { s with output := some ⟨x⟩ }) cs
  | "width" => store Json.readCount32 (fun x => { s with width := some x }) cs
  | "height" => store Json.readCount32 (fun x => { s with height := some x }) cs
  | "metric" => store Json.readSelection (fun x => { s with metrics := some x }) cs
  | "format" => store Json.readText (fun x => { s with format := some x }) cs
  | _ => (Json.orMalformed (Json.skipValue? cs)).map fun rest => (s, rest)

/-- Reads a member of an object; a setting must not be given twice. -/
def readMember (s : FileSettings) (cs : List Char) : Except JsonFault (FileSettings × List Char) :=
  match Json.skipSpace cs with
  | '"' :: cs => do
    let (name, rest) ← Json.orMalformed (Json.textBody? cs)
    let name := String.ofList name
    if s.isGiven name then .error .wrongShape
    else readValue s name (← Json.afterMark ':' rest)
  | _ => .error .malformed

/-- Reads the members of an object up to its end.  There are at most as many as the number says. -/
def readMembers : Nat → FileSettings → List Char → Except JsonFault (FileSettings × List Char)
  | 0, _, _ => .error .malformed
  | fuel + 1, s, cs => do
    let (s, rest) ← readMember s cs
    match Json.skipSpace rest with
    | ',' :: rest => readMembers fuel s rest
    | '\x7d' :: rest => return (s, rest)
    | _ => .error .malformed

/-- Reads the items of an array as the settings with the given names, up to its end. -/
def readItems : List String → FileSettings → List Char → Except JsonFault (FileSettings × List Char)
  | [], _, _ => .error .malformed
  | name :: names, s, cs => do
    let (s, rest) ← readValue s name cs
    match Json.skipSpace rest with
    | ',' :: rest => readItems names s rest
    | ']' :: rest => return (s, rest)
    | _ => .error .malformed

/-- Reads settings from the front of a text. -/
def readFront (cs : List Char) : Except JsonFault (FileSettings × List Char) :=
  match Json.skipSpace cs with
  | '\x7b' :: rest =>
    match Json.skipSpace rest with
    | '\x7d' :: rest => .ok ({}, rest)
    | rest => readMembers (rest.length + 1) {} rest
  | '[' :: rest =>
    match Json.skipSpace rest with
    | ']' :: rest => .ok ({}, rest)
    | rest => readItems Config.fieldNames {} rest
  | cs => .error (Json.otherKind cs)

/-- Reads settings in JSON. -/
def ofJson (text : String) : Except JsonFault FileSettings := do
  let (s, rest) ← readFront text.toList
  if (Json.skipSpace rest).isEmpty then return s else .error .malformed

end FileSettings

/-- The settings as a JSON value. -/
def Config.toJson (config : Config) : Json :=
  .object
    [("title", .text config.title), ("output", .text config.output.text),
      ("width", .count32 config.width), ("height", .count32 config.height),
      ("metric", .text config.metrics.key), ("format", .text config.format)]

end BenchCompare
