import BenchCompare.Json.Reader

/-!
# Passing over JSON values

A value that nobody wants is passed over: it has to be well-formed, but brackets may be nested to
any depth, numbers may be of any size, and escaped units need not form characters.
-/

namespace BenchCompare.Json

/-- Passes over the rest of a text after its opening quote. -/
def skipTextBody? : List Char → Option (List Char)
  | [] => none
  | c :: cs =>
    if c = '"' then some cs
    else if c.toNat < 32 then none
    else if c ≠ '\\' then skipTextBody? cs
    else
      match cs with
      | 'u' :: h1 :: h2 :: h3 :: h4 :: cs =>
        match hexUnit? h1 h2 h3 h4 with
        | some _ => skipTextBody? cs
        | none => none
      | e :: cs => if (escaped? e).isSome then skipTextBody? cs else none
      | [] => none

/-- Passes over a text. -/
def skipText? (cs : List Char) : Option (Unit × List Char) :=
  match skipSpace cs with
  | '"' :: rest => (skipTextBody? rest).map fun rest => ((), rest)
  | _ => none

/-- Passes over a member of an object, its value by `value?`. -/
def skipMember? (value? : List Char → Option (Unit × List Char)) (cs : List Char) :
    Option (Unit × List Char) :=
  match skipText? cs with
  | none => none
  | some (_, rest) =>
    match skipSpace rest with
    | ':' :: rest => value? rest
    | _ => none

/-- Passes over a value with at most `room` levels of brackets. -/
def skipNested? (room : Nat) (cs : List Char) : Option (Unit × List Char) :=
  match skipSpace cs with
  | [] => none
  | c :: rest =>
    if c = '"' then skipText? (c :: rest)
    else if c = '[' then
      match room with
      | 0 => none
      | room + 1 => (itemsUntil? (skipNested? room) ']' rest).map fun (_, rest) => ((), rest)
    else if c = '\x7b' then
      match room with
      | 0 => none
      | room + 1 =>
        (itemsUntil? (skipMember? (skipNested? room)) '\x7d' rest).map fun (_, rest) => ((), rest)
    else if c = 'n' then (afterWord? "ull" rest).map fun rest => ((), rest)
    else if c = 't' then (afterWord? "rue" rest).map fun rest => ((), rest)
    else if c = 'f' then (afterWord? "alse" rest).map fun rest => ((), rest)
    else (writtenNumber? (c :: rest)).map fun (_, rest) => ((), rest)

/-- The text after a value that is passed over. -/
def skipValue? (cs : List Char) : Option (List Char) :=
  (skipNested? cs.length cs).map Prod.snd

end BenchCompare.Json
