import BenchCompare.Json.Lexeme
import BenchCompare.Yaml.Text

/-!
# Scalars of a YAML text

Readers for the four kinds of scalars: plain, single-quoted, double-quoted, and blocks.  Each takes
the text after what introduces the scalar and returns its value with the rest of the text.

A scalar may go on over several lines.  Within a line blanks are kept unless they stand at one of
its ends; a single line break becomes a blank, and each further one stays a line break.
-/

namespace BenchCompare.Yaml

/-- What has been read since the last solid character of a scalar. -/
inductive Gap where
  | none
  /-- Blanks within a line. -/
  | spaces (spaces : List Char)
  /-- Line breaks: the first one, unless it was escaped, and the others. -/
  | broken (first : Option Char) (more : List Char)
  deriving DecidableEq, Repr

namespace Gap

/-- What a gap contributes to the scalar. -/
def value : Gap → List Char
  | .none => []
  | .spaces cs => cs
  | .broken .none more => more
  | .broken (some first) more =>
    if first = '\n' then if more.isEmpty then [' '] else more else first :: more

/-- Whether a line was broken in the gap. -/
def isBroken : Gap → Bool
  | .broken _ _ => true
  | _ => false

/-- The gap with one more blank; blanks after a line break do not count. -/
def addSpace (gap : Gap) (c : Char) : Gap :=
  match gap with
  | .none => .spaces [c]
  | .spaces cs => .spaces (cs ++ [c])
  | .broken first more => .broken first more

/-- The gap with one more line break; blanks in front of it do not count. -/
def addBreak (gap : Gap) (c : Char) : Gap :=
  match gap with
  | .broken first more => .broken first (more ++ [c])
  | _ => .broken (some c) []

end Gap

/-- A value in front of what was read after it. -/
def pushAll? (cs : List Char) : Option (List Char × List Char) → Option (List Char × List Char)
  | some (value, rest) => some (cs ++ value, rest)
  | none => none

/-! ### Quoted scalars -/

/-- Reads the rest of a single-quoted scalar; two quotes stand for one. -/
def singleQuoted? (gap : Gap) : List Char → Option (List Char × List Char)
  | [] => none
  | '\'' :: '\'' :: cs => pushAll? (gap.value ++ ['\'']) (singleQuoted? .none cs)
  | c :: cs =>
    if c = '\'' then some (gap.value, cs)
    else if isBreak c then
      if atDocumentMarker cs then none else singleQuoted? (gap.addBreak c) cs
    else if isSpace c then singleQuoted? (gap.addSpace c) cs
    else pushAll? (gap.value ++ [c]) (singleQuoted? .none cs)

/-- The character that a letter stands for after a backslash. -/
def escaped? (c : Char) : Option Char :=
  [('0', 0x00), ('a', 0x07), ('b', 0x08), ('t', 0x09), ('\t', 0x09), ('n', 0x0A), ('v', 0x0B),
    ('f', 0x0C), ('r', 0x0D), ('e', 0x1B), (' ', 0x20), ('"', 0x22), ('/', 0x2F), ('\\', 0x5C),
    ('N', 0x85), ('_', 0xA0), ('L', 0x2028), ('P', 0x2029)].lookup c |>.map Char.ofNat

/-- The character with a code point, if there is one. -/
def codePoint? (n : Nat) : Option Char :=
  if n.isValidChar then some (Char.ofNat n) else none

/-- The number that hexadecimal digits stand for. -/
def hexNumber? (digits : List Char) : Option Nat :=
  digits.foldlM (fun n c => (Json.hexValue? c).map (16 * n + ·)) 0

/-- The character whose code point is written in hexadecimal digits. -/
def hexChar? (digits : List Char) : Option Char :=
  (hexNumber? digits).bind codePoint?

/-- A character in front of what was read after it, if there is such a character. -/
def pushChar? (before : List Char) (c : Option Char)
    (after : Option (List Char × List Char)) : Option (List Char × List Char) :=
  match c with
  | some c => pushAll? (before ++ [c]) after
  | none => none

/-- Reads the rest of a double-quoted scalar. -/
def doubleQuoted? (gap : Gap) : List Char → Option (List Char × List Char)
  | [] => none
  | '\\' :: 'x' :: a :: b :: cs =>
    pushChar? gap.value (hexChar? [a, b]) (doubleQuoted? .none cs)
  | '\\' :: 'u' :: a :: b :: c :: d :: cs =>
    pushChar? gap.value (hexChar? [a, b, c, d]) (doubleQuoted? .none cs)
  | '\\' :: 'U' :: a :: b :: c :: d :: e :: f :: g :: h :: cs =>
    pushChar? gap.value (hexChar? [a, b, c, d, e, f, g, h]) (doubleQuoted? .none cs)
  | '\\' :: e :: cs =>
    if isBreak e then
      if atDocumentMarker cs then none
      else pushAll? gap.value (doubleQuoted? (.broken none []) cs)
    else pushChar? gap.value (escaped? e) (doubleQuoted? .none cs)
  | c :: cs =>
    if c = '"' then some (gap.value, cs)
    else if isBreak c then
      if atDocumentMarker cs then none else doubleQuoted? (gap.addBreak c) cs
    else if isSpace c then doubleQuoted? (gap.addSpace c) cs
    else pushAll? (gap.value ++ [c]) (doubleQuoted? .none cs)

/-! ### Plain scalars -/

/-- What was read of a plain scalar. -/
structure PlainText where
  value : List Char
  rest : List Char
  /-- Whether a line was broken after the last character of the scalar. -/
  broken : Bool
  deriving DecidableEq, Repr

/-- A value in front of what was read after it. -/
def PlainText.push? (cs : List Char) : Option PlainText → Option PlainText
  | some text => some { text with value := cs ++ text.value }
  | none => none

/-- Whether a character separates the items of a flow collection. -/
def isFlowMark (c : Char) : Bool :=
  c == ',' || c == '[' || c == ']' || c == '\x7b' || c == '\x7d'

/-- The marks with which no plain scalar begins, besides those of flow collections. -/
def leadingMarks : List Char :=
  ['#', '&', '*', '!', '|', '>', '\'', '"', '%', '@', '\x60']

/-- Whether a colon in front of this text makes a plain scalar of a flow collection invalid. -/
def isBadColon : List Char → Bool
  | c :: _ => isFlowMark c || c == '?'
  | [] => false

/-- Whether a plain scalar ends in front of the character `c`, because of a gap before it. -/
def endsAfterGap (flow : Bool) (indent column : Nat) (gap : Gap) (cs : List Char) : Bool :=
  gap ≠ .none
    && ((!flow && column < indent) || (column == 0 && atDocumentMarker cs) || cs.head? == some '#')

/-- Reads a plain scalar at a column.  In a flow collection it ends at the marks of the collection;
outside, its further lines must reach the indentation `indent`. -/
def plain? (flow : Bool) (indent : Nat) (gap : Gap) (column : Nat) :
    List Char → Option PlainText
  | [] => some ⟨[], [], gap.isBroken⟩
  | c :: cs =>
    if isBreak c then plain? flow indent (gap.addBreak c) 0 cs
    else if isSpace c then
      if gap.isBroken && column < indent && c == '\t' then none
      else plain? flow indent (gap.addSpace c) (column + 1) cs
    else if endsAfterGap flow indent column gap (c :: cs) then some ⟨[], c :: cs, gap.isBroken⟩
    else if flow && c == ':' && isBadColon cs then none
    else if (c == ':' && atGap cs) || (flow && isFlowMark c) then
      some ⟨[], c :: cs, gap.isBroken⟩
    else PlainText.push? (gap.value ++ [c]) (plain? flow indent .none (column + 1) cs)

/-! ### Blocks -/

/-- A line of a text with the character that ends it. -/
structure TextLine where
  content : List Char
  ending : Option Char
  deriving DecidableEq, Repr

/-- The lines of a text; the last one has no ending. -/
def textLines : List Char → List TextLine
  | [] => [⟨[], none⟩]
  | c :: cs =>
    if isBreak c then ⟨[], some c⟩ :: textLines cs
    else
      match textLines cs with
      | [] => [⟨[c], none⟩]
      | line :: rest => { line with content := c :: line.content } :: rest

/-- The text of lines. -/
def joinLines (lines : List TextLine) : List Char :=
  lines.flatMap fun line => line.content ++ line.ending.toList

/-- What becomes of the line breaks at the end of a block. -/
inductive Chomping where
  /-- All are dropped. -/
  | strip
  /-- The first one is kept. -/
  | clip
  /-- All are kept. -/
  | keep
  deriving DecidableEq, Repr

/-- How many blanks a line begins with. -/
def indentOf (line : TextLine) : Nat :=
  (line.content.takeWhile (· == ' ')).length

/-- The greatest indentation of the empty lines at the beginning and of the first line after them;
fails if such a line is indented by a tab. -/
def leadingIndent? (most : Nat) : List TextLine → Option Nat
  | [] => some most
  | line :: rest =>
    let indent := indentOf line
    let after := line.content.drop indent
    if after.head? == some '\t' then none
    else if after.isEmpty && line.ending.isSome then leadingIndent? (max most indent) rest
    else some (max most indent)

/-- The line breaks of the empty lines at the beginning, and the lines after them; fails if a line
that is not indented enough goes on with a tab. -/
def emptyLines? (indent : Nat) : List TextLine → Option (List Char × List TextLine)
  | [] => some ([], [])
  | line :: rest =>
    let depth := min indent (indentOf line)
    let after := line.content.drop depth
    if depth < indent && after.head? == some '\t' then none
    else
      match after, line.ending with
      | [], some c => (emptyLines? indent rest).map fun (breaks, rest) => (c :: breaks, rest)
      | _, _ => some ([], line :: rest)

/-- The part of a block that has been read. -/
structure BlockText where
  value : List Char := []
  /-- The end of the last line, and whether that line began with a blank. -/
  lastBreak : List Char := []
  lastIndented : Bool := false
  /-- The line breaks of the empty lines after it. -/
  breaks : List Char := []
  deriving DecidableEq, Repr

/-- What the line breaks between two lines of a block become. -/
def BlockText.joint (folded : Bool) (block : BlockText) (indented : Bool) : List Char :=
  if folded && block.lastBreak == ['\n'] && !block.lastIndented && !indented then
    if block.breaks.isEmpty then [' '] else block.breaks
  else block.lastBreak ++ block.breaks

/-- The value of a block in the end. -/
def BlockText.finish (chomping : Chomping) (block : BlockText) : List Char :=
  match chomping with
  | .strip => block.value
  | .clip => block.value ++ block.lastBreak
  | .keep => block.value ++ block.lastBreak ++ block.breaks

/-- Whether a line belongs to a block with an indentation. -/
def belongs (indent : Nat) (line : TextLine) : Bool :=
  indent ≤ indentOf line && !((line.content.drop indent).isEmpty && line.ending.isNone)

/-- Reads the lines of a block.  There are at most as many as the number says. -/
def blockLines? (folded : Bool) (indent : Nat) (block : BlockText) :
    Nat → List TextLine → Option (BlockText × List TextLine)
  | 0, lines => some (block, lines)
  | _ + 1, [] => some (block, [])
  | fuel + 1, line :: rest =>
    if belongs indent line then
      let content := line.content.drop indent
      let indented := content.head?.any isSpace
      match emptyLines? indent rest with
      | none => none
      | some (breaks, rest) =>
        blockLines? folded indent
          { value := block.value ++ block.joint folded indented ++ content
            lastBreak := line.ending.toList
            lastIndented := indented
            breaks }
          fuel rest
    else some (block, line :: rest)

/-- The indentation of a block: the given one, or else that of its first lines, but always deeper
than the collection around it. -/
def blockIndent? (around : Int) (given : Option Nat) (lines : List TextLine) : Option Nat :=
  match given with
  | some n => some (if 0 ≤ around then around.toNat + n else n)
  | none => (leadingIndent? 0 lines).map fun n => max n (max (around + 1).toNat 1)

/-- Reads a block after its header line. -/
def blockBody? (folded : Bool) (around : Int) (chomping : Chomping) (given : Option Nat)
    (cs : List Char) : Option (List Char × List Char) := do
  let lines := textLines cs
  let indent ← blockIndent? around given lines
  let (breaks, lines) ← emptyLines? indent lines
  let (block, rest) ← blockLines? folded indent { breaks } (lines.length + 1) lines
  return (block.finish chomping, joinLines rest)

/-- The digit that gives the indentation of a block. -/
def indentDigit? (c : Char) : Option Nat :=
  if c.isDigit && c ≠ '0' then some (c.toNat - '0'.toNat) else none

/-- The sign that says what becomes of the line breaks at the end of a block. -/
def chompingSign? (c : Char) : Option Chomping :=
  if c = '+' then some .keep else if c = '-' then some .strip else none

/-- Reads the signs after the mark of a block, in either order. -/
def blockHeader (cs : List Char) : Chomping × Option Nat × List Char :=
  match cs with
  | [] => (.clip, none, [])
  | c :: rest =>
    match chompingSign? c with
    | some chomping =>
      match rest with
      | d :: rest' =>
        match indentDigit? d with
        | some n => (chomping, some n, rest')
        | none => (chomping, none, rest)
      | [] => (chomping, none, [])
    | none =>
      match indentDigit? c with
      | none => (.clip, none, cs)
      | some n =>
        match rest with
        | d :: rest' =>
          match chompingSign? d with
          | some chomping => (chomping, some n, rest')
          | none => (.clip, some n, rest)
        | [] => (.clip, some n, [])

/-- The text without blanks and a comment in front of a line break. -/
def dropComment (cs : List Char) : List Char :=
  match cs.dropWhile isSpace with
  | '#' :: rest => rest.dropWhile fun c => !isBreak c
  | rest => rest

/-- Reads a block after its mark; `around` is the indentation of the collection around it. -/
def block? (folded : Bool) (around : Int) (cs : List Char) : Option (List Char × List Char) :=
  let (chomping, given, rest) := blockHeader cs
  match dropComment rest with
  | [] => some ([], [])
  | c :: rest => if isBreak c then blockBody? folded around chomping given rest else none

end BenchCompare.Yaml
