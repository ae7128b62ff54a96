import BenchCompare.Json.Lexeme

/-!
# Reading JSON

A value is read from the front of a text, and the rest of the text is returned with it.  Brackets
may be nested up to a limit; the recursion is on the levels that are left.

A text can fail in two ways where JSON of a certain shape is wanted: it is no JSON at all, or it is
JSON of another shape.
-/

namespace BenchCompare

/-- Why a JSON text cannot be used. -/
inductive JsonFault where
  /-- The text is no JSON. -/
  | malformed
  /-- The text is JSON of another shape. -/
  | wrongShape
  deriving DecidableEq, Repr

/-- The wording of a fault. -/
def JsonFault.message : JsonFault → String
  | .malformed => "json:syntax"
  | .wrongShape => "json:data"

end BenchCompare

namespace BenchCompare.Json

/-- How deeply brackets may be nested. -/
def nestingLimit : Nat := 127

/-- Reads what follows an item: the end, or a comma and more items.  There are at most as many items
as the number says. -/
def itemsThen? {α : Type} (item? : List Char → Option (α × List Char)) (closing : Char) :
    Nat → List Char → Option (List α × List Char)
  | 0, _ => none
  | fuel + 1, cs =>
    match item? cs with
    | none => none
    | some (item, rest) =>
      match skipSpace rest with
      | [] => none
      | c :: rest =>
        if c = closing then some ([item], rest)
        else if c = ',' then
          match itemsThen? item? closing fuel rest with
          | some (items, rest) => some (item :: items, rest)
          | none => none
        else none

/-- Reads items up to the closing bracket. -/
def itemsUntil? {α : Type} (item? : List Char → Option (α × List Char)) (closing : Char)
    (cs : List Char) : Option (List α × List Char) :=
  match skipSpace cs with
  | [] => none
  | c :: rest =>
    if c = closing then some ([], rest) else itemsThen? item? closing (rest.length + 1) (c :: rest)

/-- Reads the member of an object, its value by `value?`. -/
def memberWith? (value? : List Char → Option (Json × List Char)) (cs : List Char) :
    Option ((String × Json) × List Char) :=
  match skipSpace cs with
  | '"' :: cs =>
    match textBody? cs with
    | none => none
    | some (name, rest) =>
      match skipSpace rest with
      | ':' :: rest => (value? rest).map fun (value, rest) => ((String.ofList name, value), rest)
      | _ => none
  | _ => none

/-- Reads a value with at most `room` levels of brackets. -/
def value? (room : Nat) (cs : List Char) : Option (Json × List Char) :=
  match skipSpace cs with
  | [] => none
  | c :: rest =>
    if c = '"' then (textBody? rest).map fun (body, rest) => (.text (String.ofList body), rest)
    else if c = '[' then
      match room with
      | 0 => none
      | room + 1 =>
        (itemsUntil? (value? room) ']' rest).map fun (items, rest) => (.array items, rest)
    else if c = '\x7b' then
      match room with
      | 0 => none
      | room + 1 =>
        (itemsUntil? (memberWith? (value? room)) '\x7d' rest).map fun (members, rest) =>
          (.object members, rest)
    else if c = 'n' then (afterWord? "ull" rest).map fun rest => (.null, rest)
    else if c = 't' then (afterWord? "rue" rest).map fun rest => (.boolean true, rest)
    else if c = 'f' then (afterWord? "alse" rest).map fun rest => (.boolean false, rest)
    else number? (c :: rest)

/-- Reads the value at the front of a text, and returns what follows it without blanks. -/
def read? (text : String) : Option (Json × List Char) :=
  (value? nestingLimit text.toList).map fun (value, rest) => (value, skipSpace rest)

/-- Reads a text that is one value. -/
def parse? (text : String) : Option Json :=
  match read? text with
  | some (value, []) => some value
  | _ => none

end BenchCompare.Json
