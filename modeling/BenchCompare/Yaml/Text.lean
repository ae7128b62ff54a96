/-!
# Characters of a YAML text

A YAML text may hold printable characters, tabs and line breaks.  There are five ways to break a
line; three of them mean the same and become a line feed before anything else happens.  The other
two, the line separator and the paragraph separator, stay what they are.
-/

namespace BenchCompare.Yaml

/-- The character that marks the beginning of a text. -/
def byteOrderMark : Char := Char.ofNat 0xFEFF

/-- Whether a character may occur in a text. -/
def isAllowed (c : Char) : Bool :=
  let n := c.toNat
  n == 0x09 || n == 0x0A || n == 0x0D || (0x20 ≤ n && n ≤ 0x7E) || n == 0x85
    || (0xA0 ≤ n && n ≤ 0xFFFD) || 0x10000 ≤ n

/-- Whether a character ends a line, once line breaks have been unified. -/
def isBreak (c : Char) : Bool :=
  c == '\n' || c.toNat == 0x2028 || c.toNat == 0x2029

/-- Whether a character is a blank within a line. -/
def isSpace (c : Char) : Bool :=
  c == ' ' || c == '\t'

/-- Whether a character is neither a blank nor a line break. -/
def isSolid (c : Char) : Bool :=
  !isSpace c && !isBreak c

/-- Whether a character may occur in a name. -/
def isNameChar (c : Char) : Bool :=
  c.isAlphanum || c == '_' || c == '-'

/-- Whether a text is at its end or at a line break. -/
def atBreak : List Char → Bool
  | [] => true
  | c :: _ => isBreak c

/-- Whether a text is at its end, at a blank or at a line break. -/
def atGap : List Char → Bool
  | [] => true
  | c :: _ => !isSolid c

/-- The text with line feeds in place of the common line breaks. -/
def unifyBreaks : List Char → List Char
  | [] => []
  | '\r' :: '\n' :: cs => '\n' :: unifyBreaks cs
  | c :: cs =>
    (if c = '\r' || c.toNat = 0x85 then '\n' else c) :: unifyBreaks cs

/-- Whether a text begins with three given characters and a gap. -/
def atMarker (marker : Char) : List Char → Bool
  | a :: b :: c :: rest => a == marker && b == marker && c == marker && atGap rest
  | _ => false

/-- Whether a text is at the beginning or at the end of a document, provided that it is at the
beginning of a line. -/
def atDocumentMarker (cs : List Char) : Bool :=
  atMarker '-' cs || atMarker '.' cs

/-! ### Positions -/

/-- A position in a text: the rest of the text, and how far it is from the beginning. -/
structure Cursor where
  rest : List Char
  index : Nat := 0
  line : Nat := 0
  column : Nat := 0
  deriving DecidableEq, Repr

namespace Cursor

/-- The position after the next character. -/
def next (cursor : Cursor) : Cursor :=
  match cursor.rest with
  | [] => cursor
  | c :: rest =>
    if isBreak c then
      { rest, index := cursor.index + 1, line := cursor.line + 1, column := 0 }
    else { cursor with rest, index := cursor.index + 1, column := cursor.column + 1 }

/-- The position after a number of characters. -/
def skip : Nat → Cursor → Cursor
  | 0, cursor => cursor
  | n + 1, cursor => skip n cursor.next

/-- The position after the characters that `p` holds of. -/
def skipWhile (p : Char → Bool) (cursor : Cursor) : Cursor :=
  skip (cursor.rest.takeWhile p).length cursor

/-- The position at which only `rest` is left. -/
def skipTo (rest : List Char) (cursor : Cursor) : Cursor :=
  skip (cursor.rest.length - rest.length) cursor

/-- The position of the first token at the earliest: after the mark at the beginning of the text,
which takes up a column. -/
def start (text : List Char) : Cursor :=
  let cursor : Cursor := { rest := text }
  if text.head? == some byteOrderMark then cursor.next else cursor

end Cursor

end BenchCompare.Yaml
