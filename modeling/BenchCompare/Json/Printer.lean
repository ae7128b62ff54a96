import BenchCompare.Json.Value

/-!
# Writing JSON

There are two layouts.  The compact one has no blanks at all.  The indented one puts every item and
every member on a line of its own, two blanks deeper than the brackets around it; empty brackets
stay together in both.
-/

namespace BenchCompare.Json

/-- Where line breaks go. -/
inductive Layout where
  | compact
  | indented
  deriving DecidableEq, Repr

namespace Layout

/-- The beginning of a line inside `depth` brackets. -/
def newLine (layout : Layout) (depth : Nat) : List Char :=
  match layout with
  | .compact => []
  | .indented => '\n' :: List.replicate (2 * depth) ' '

/-- What stands between the name of a member and its value. -/
def afterName : Layout → List Char
  | .compact => [':']
  | .indented => [':', ' ']

/-- Parts separated by commas, each at the beginning of a line. -/
def separated (layout : Layout) (depth : Nat) : List (List Char) → List Char
  | [] => []
  | [part] => layout.newLine depth ++ part
  | part :: rest => layout.newLine depth ++ part ++ ',' :: layout.separated depth rest

/-- Brackets around parts; `depth` counts the brackets around these ones. -/
def enclosed (layout : Layout) (depth : Nat) (opening closing : Char) :
    List (List Char) → List Char
  | [] => [opening, closing]
  | parts =>
    opening :: (layout.separated (depth + 1) parts ++ layout.newLine depth ++ [closing])

end Layout

/-- A lower-case hexadecimal digit. -/
def hexDigit (n : Nat) : Char :=
  Nat.digitChar (n % 16)

/-- A character as it is written in a text. -/
def writtenChar (c : Char) : List Char :=
  if c = '"' then ['\\', '"']
  else if c = '\\' then ['\\', '\\']
  else if c = '\n' then ['\\', 'n']
  else if c = '\r' then ['\\', 'r']
  else if c = '\t' then ['\\', 't']
  else if c = Char.ofNat 8 then ['\\', 'b']
  else if c = Char.ofNat 12 then ['\\', 'f']
  else if c.toNat < 32 then ['\\', 'u', '0', '0', hexDigit (c.toNat / 16), hexDigit c.toNat]
  else [c]

/-- A text in quotes. -/
def writtenText (s : String) : List Char :=
  '"' :: (s.toList.flatMap writtenChar ++ ['"'])

/-- A number; what is no finite number is written as `null`. -/
def writtenNumber (x : Binary64) : List Char :=
  if x.isFinite then numberStyle.render x else "null".toList

mutual

/-- A value in a layout, inside `depth` brackets. -/
def written (layout : Layout) (depth : Nat) : Json → List Char
  | .null => "null".toList
  | .boolean true => "true".toList
  | .boolean false => "false".toList
  | .whole n => (Numeral.integerText n).toList
  | .number x => writtenNumber x
  | .text s => writtenText s
  | .array items => layout.enclosed depth '[' ']' (writtenItems layout (depth + 1) items)
  | .object members =>
    layout.enclosed depth '\x7b' '\x7d' (writtenMembers layout (depth + 1) members)

/-- The items of an array, each written in the layout. -/
def writtenItems (layout : Layout) (depth : Nat) : List Json → List (List Char)
  | [] => []
  | item :: rest => written layout depth item :: writtenItems layout depth rest

/-- The members of an object, each written in the layout. -/
def writtenMembers (layout : Layout) (depth : Nat) : List (String × Json) → List (List Char)
  | [] => []
  | (name, value) :: rest =>
    (writtenText name ++ layout.afterName ++ written layout depth value)
      :: writtenMembers layout depth rest

end

/-- The text of a value. -/
def render (layout : Layout) (value : Json) : String :=
  String.ofList (written layout 0 value)

end BenchCompare.Json
