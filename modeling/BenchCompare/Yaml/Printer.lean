import BenchCompare.Numeral
import BenchCompare.Yaml.Look
import BenchCompare.Yaml.Token

/-!
# Writing texts in YAML

A text is written as plainly as possible: as it stands if it would be read back as the same text; in
single quotes if it would otherwise be taken for something else; in double quotes, with escapes, if
it holds characters that could not be seen; and as a block if it holds a line feed.  Long lines stay
in one piece.
-/

namespace BenchCompare.Yaml

/-! ### What a text holds -/

/-- Whether a character can be seen, or breaks a line. -/
def isPrintable (c : Char) : Bool :=
  let n := c.toNat
  n == 0x0A || (0x20 ≤ n && n ≤ 0x7E)
    || (0xA0 ≤ n && n ≠ 0xFEFF && n ≠ 0xFFFE && n ≠ 0xFFFF)

/-- Whether two neighbouring characters of a text satisfy `p`. -/
def anyNeighbours (p : Char → Char → Bool) : List Char → Bool
  | c :: d :: rest => p c d || anyNeighbours p (d :: rest)
  | _ => false

/-- Whether a text has a blank in front of a line break. -/
def hasSpaceBreak (cs : List Char) : Bool :=
  anyNeighbours (fun c d => c == ' ' && isBreak d) cs

/-- Whether a text has a blank after a line break. -/
def hasBreakSpace (cs : List Char) : Bool :=
  anyNeighbours (fun c d => isBreak c && d == ' ') cs

/-- Whether a text begins like something other than a plain scalar. -/
def beginsOther : List Char → Bool
  | [] => false
  | c :: rest =>
    leadingMarks.contains c || isFlowMark c
      || (['?', ':', '-'].contains c && atGap rest)
      || "---".toList.isPrefixOf (c :: rest) || "...".toList.isPrefixOf (c :: rest)

/-- Whether a colon or a number sign would end a plain scalar. -/
def endsInside (cs : List Char) : Bool :=
  cs.getLast? == some ':'
    || anyNeighbours (fun c d => (c == ':' && !isSolid d) || (!isSolid c && d == '#')) cs

/-- Whether a character is a blank or a line break. -/
def isEdge (c : Char) : Bool :=
  c == ' ' || isBreak c

/-- Whether a text can be written as a plain scalar. -/
def plainAllowed (cs : List Char) : Bool :=
  cs.all (fun c => isPrintable c && !isBreak c) && !beginsOther cs && !endsInside cs
    && !cs.head?.any isEdge && !cs.getLast?.any isEdge

/-- Whether a text can be written in single quotes. -/
def singleAllowed (cs : List Char) : Bool :=
  cs.all isPrintable && !hasSpaceBreak cs && !hasBreakSpace cs

/-- Whether a text can be written as a block. -/
def blockAllowed (cs : List Char) : Bool :=
  cs.all isPrintable && !hasSpaceBreak cs && cs.getLast? ≠ some ' '

/-- How a text is written. -/
def styleOf (cs : List Char) : ScalarStyle :=
  if cs.contains '\n' then if blockAllowed cs then .literal else .doubleQuoted
  else if !looksOther cs && plainAllowed cs then .plain
  else if singleAllowed cs then .singleQuoted
  else .doubleQuoted

/-! ### Quotes -/

/-- The indentation of further lines. -/
def indentation : List Char := [' ', ' ']

/-- A text within single quotes; after a line break the next line is indented. -/
def singleBody (afterBreak : Bool) : List Char → List Char
  | [] => if afterBreak then indentation else []
  | c :: cs =>
    if isBreak c then c :: singleBody true cs
    else
      (if afterBreak then indentation else []) ++ (if c = '\'' then ['\'', '\''] else [c])
        ++ singleBody false cs

/-- The upper-case hexadecimal digits of a number, filled up with zeros. -/
def hexDigits (width n : Nat) : List Char :=
  let digits := (Nat.toDigits 16 n).map Char.toUpper
  List.replicate (width - digits.length) '0' ++ digits

/-- The letter that stands for a character after a backslash. -/
def escapeLetter? (n : Nat) : Option Char :=
  [(0x00, '0'), (0x07, 'a'), (0x08, 'b'), (0x09, 't'), (0x0A, 'n'), (0x0B, 'v'), (0x0C, 'f'),
    (0x0D, 'r'), (0x1B, 'e'), (0x22, '"'), (0x5C, '\\'), (0x85, 'N'), (0x2028, 'L'),
    (0x2029, 'P')].lookup n

/-- A character as it is written after a backslash. -/
def escape (c : Char) : List Char :=
  match escapeLetter? c.toNat with
  | some letter => [letter]
  | none =>
    if c.toNat ≤ 0xFF then 'x' :: hexDigits 2 c.toNat
    else if c.toNat ≤ 0xFFFF then 'u' :: hexDigits 4 c.toNat
    else 'U' :: hexDigits 8 c.toNat

/-- A character within double quotes. -/
def doubleChar (c : Char) : List Char :=
  if isPrintable c && !isBreak c && c ≠ '"' && c ≠ '\\' then [c] else '\\' :: escape c

/-! ### Blocks -/

/-- The lines of a block, indented; empty lines are not. -/
def blockBody (afterBreak : Bool) : List Char → List Char
  | [] => []
  | c :: cs =>
    if isBreak c then c :: blockBody true cs
    else (if afterBreak then indentation else []) ++ c :: blockBody false cs

/-- The sign for what is done with the line breaks at the end of a block. -/
def chompingSign (cs : List Char) : List Char :=
  match cs.reverse with
  | [] => ['-']
  | [c] => if isBreak c then ['+'] else ['-']
  | c :: d :: _ => if !isBreak c then ['-'] else if isBreak d then ['+'] else []

/-- The signs after the mark of a block. -/
def blockSigns (cs : List Char) : List Char :=
  (if cs.head?.any isEdge then ['2'] else []) ++ chompingSign cs

/-- The end of the last line, unless the text ends in a line break itself. -/
def lineEnd (cs : List Char) : List Char :=
  if cs.getLast?.any isBreak then [] else ['\n']

/-! ### Texts -/

/-- A text as the value of an entry, with the end of its last line. -/
def writtenText (cs : List Char) : List Char :=
  match styleOf cs with
  | .plain => cs ++ ['\n']
  | .singleQuoted => '\'' :: (singleBody false cs ++ ['\'', '\n'])
  | .literal | .folded => '|' :: (blockSigns cs ++ '\n' :: (blockBody true cs ++ lineEnd cs))
  | .doubleQuoted => '"' :: (cs.flatMap doubleChar ++ ['"', '\n'])

/-- An entry of a mapping with a text as its value. -/
def textEntry (name value : String) : List Char :=
  name.toList ++ ':' :: ' ' :: writtenText value.toList

/-- An entry of a mapping with a number as its value. -/
def numberEntry (name : String) (value : Nat) : List Char :=
  name.toList ++ ':' :: ' ' :: (Numeral.digits value ++ ['\n'])

end BenchCompare.Yaml
