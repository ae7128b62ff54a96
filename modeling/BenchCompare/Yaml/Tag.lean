import BenchCompare.Json.Lexeme
import BenchCompare.Yaml.Text

/-!
# Names, tags and directives of a YAML text

The parts of a YAML text that are made of names: anchors, tags, and the directives in front of a
document.  A tag is a handle and a suffix; the directives of the document say what the handle stands
for.  Each reader takes the rest of the text and returns a value with the rest after it.
-/

namespace BenchCompare.Yaml

/-- A tag as it is written.  A tag in angle brackets has an empty handle. -/
structure TagName where
  handle : List Char
  suffix : List Char
  deriving DecidableEq, Repr

/-- A directive in front of a document. -/
inductive Directive where
  | version (major minor : Nat)
  | tag (handle expansion : List Char)
  deriving DecidableEq, Repr

/-- Whether the name of an anchor may end in front of a text. -/
def endsAnchor : List Char → Bool
  | [] => true
  | c :: _ => !isSolid c || ['?', ':', ',', ']', '\x7d', '%', '@', '\x60'].contains c

/-- Reads the name of an anchor or an alias. -/
def anchorName? (cs : List Char) : Option (List Char × List Char) :=
  let name := cs.takeWhile isNameChar
  let rest := cs.dropWhile isNameChar
  if name.isEmpty || !endsAnchor rest then none else some (name, rest)

/-! ### Tags -/

/-- Whether a character may occur in a tag as it is; some only within angle brackets. -/
def isTagChar (bracketed : Bool) (c : Char) : Bool :=
  isNameChar c || ";/?:@&=+$.!~*'()".toList.contains c || (bracketed && [',', '[', ']'].contains c)

/-- Reads a byte that is written as a percent sign and two hexadecimal digits. -/
def escapedByte? : List Char → Option (Nat × List Char)
  | '%' :: a :: b :: rest => do
    return (16 * (← Json.hexValue? a) + (← Json.hexValue? b), rest)
  | _ => none

/-- How many bytes follow the first byte of a character, and what the first byte contributes. -/
def firstByte? (n : Nat) : Option (Nat × Nat) :=
  if n < 0x80 then some (0, n)
  else if 0xC0 ≤ n && n < 0xE0 then some (1, n % 0x20)
  else if 0xE0 ≤ n && n < 0xF0 then some (2, n % 0x10)
  else if 0xF0 ≤ n && n < 0xF8 then some (3, n % 0x08)
  else none

/-- Reads further bytes of a character after the value `n`. -/
def moreBytes? : Nat → Nat → List Char → Option (Nat × List Char)
  | 0, n, cs => some (n, cs)
  | count + 1, n, cs =>
    match escapedByte? cs with
    | some (byte, rest) =>
      if byte / 0x40 = 2 then moreBytes? count (n * 0x40 + byte % 0x40) rest else none
    | none => none

/-- Reads a character whose bytes are written with percent signs. -/
def escapedChar? (cs : List Char) : Option (Char × List Char) := do
  let (byte, rest) ← escapedByte? cs
  let (count, n) ← firstByte? byte
  let (n, rest) ← moreBytes? count n rest
  return (Char.ofNat n, rest)

/-- Reads the characters of a tag.  There are at most as many as the number says. -/
def tagText? (bracketed : Bool) : Nat → List Char → Option (List Char × List Char)
  | 0, cs => some ([], cs)
  | _ + 1, [] => some ([], [])
  | fuel + 1, c :: cs =>
    if isTagChar bracketed c then
      (tagText? bracketed fuel cs).map fun (text, rest) => (c :: text, rest)
    else if c = '%' then
      match escapedChar? (c :: cs) with
      | none => none
      | some (escaped, rest) =>
        (tagText? bracketed fuel rest).map fun (text, rest) => (escaped :: text, rest)
    else some ([], c :: cs)

/-- Reads a handle: an exclamation mark, a name, and another exclamation mark if there is one. -/
def tagHandle? : List Char → Option (List Char × List Char)
  | '!' :: cs =>
    let name := cs.takeWhile isNameChar
    match cs.dropWhile isNameChar with
    | '!' :: rest => some ('!' :: (name ++ ['!']), rest)
    | rest => some ('!' :: name, rest)
  | _ => none

/-- Whether a handle has an exclamation mark at each end. -/
def isFullHandle (handle : List Char) : Bool :=
  2 ≤ handle.length && handle.getLast? == some '!'

/-- Reads a tag in angle brackets, after the opening one. -/
def bracketedTag? (cs : List Char) : Option (TagName × List Char) :=
  match tagText? true (cs.length + 1) cs with
  | some (suffix, '>' :: rest) => if suffix.isEmpty then none else some (⟨[], suffix⟩, rest)
  | _ => none

/-- Reads a tag that begins with a handle. -/
def handledTag? (cs : List Char) : Option (TagName × List Char) := do
  let (handle, rest) ← tagHandle? cs
  let (text, rest) ← tagText? false (rest.length + 1) rest
  if isFullHandle handle then
    if text.isEmpty then none else return (⟨handle, text⟩, rest)
  else
    let suffix := handle.drop 1 ++ text
    if suffix.isEmpty then return (⟨[], ['!']⟩, rest) else return (⟨['!'], suffix⟩, rest)

/-- Reads a tag. -/
def tag? (flow : Bool) (cs : List Char) : Option (TagName × List Char) := do
  let (name, rest) ←
    match cs with
    | '!' :: '<' :: rest => bracketedTag? rest
    | _ => handledTag? cs
  if atGap rest || (flow && rest.head? == some ',') then return (name, rest) else none

/-! ### Directives -/

/-- The text after blanks, of which there has to be one. -/
def afterSpaces? : List Char → Option (List Char)
  | c :: cs => if isSpace c then some (cs.dropWhile isSpace) else none
  | [] => none

/-- Reads a number of at most nine digits. -/
def versionNumber? (cs : List Char) : Option (Nat × List Char) :=
  let digits := cs.takeWhile Char.isDigit
  if digits.isEmpty || 9 < digits.length then none
  else some (Numeral.value digits, cs.dropWhile Char.isDigit)

/-- Reads the version of a directive. -/
def versionDirective? (cs : List Char) : Option (Directive × List Char) := do
  let (major, rest) ← versionNumber? (cs.dropWhile isSpace)
  match rest with
  | '.' :: rest => do
    let (minor, rest) ← versionNumber? rest
    return (.version major minor, rest)
  | _ => none

/-- Reads the handle of a directive and what it stands for. -/
def tagDirective? (cs : List Char) : Option (Directive × List Char) := do
  let (handle, rest) ← tagHandle? (cs.dropWhile isSpace)
  if handle ≠ ['!'] && !isFullHandle handle then none
  else
    let rest ← afterSpaces? rest
    let (expansion, rest) ← tagText? true (rest.length + 1) rest
    if expansion.isEmpty || !atGap rest then none else return (.tag handle expansion, rest)

/-- Reads a directive after its percent sign, up to the end of its line. -/
def directive? (cs : List Char) : Option (Directive × List Char) := do
  let name := cs.takeWhile isNameChar
  let rest := cs.dropWhile isNameChar
  let (directive, rest) ←
    if !atGap rest then none
    else if name = "YAML".toList then versionDirective? rest
    else if name = "TAG".toList then tagDirective? rest
    else none
  let rest := rest.dropWhile isSpace
  let rest := if rest.head? == some '#' then rest.dropWhile (fun c => !isBreak c) else rest
  if atBreak rest then return (directive, rest.drop 1) else none

end BenchCompare.Yaml
