/-!
# Blanks, cuts, and letters

Text is handled as a list of characters.  A *blank* is a character with the Unicode property
`White_Space`.  On top of that one class this file builds trimming at both ends, the maximal
blank-free words of a text, its lines, and the ways in which a text is cut at a mark.

The names that the program knows are lower-case ASCII words.  A text spells such a name if its
lower-case form is that word.  Outside ASCII only one character has a lower-case form that is an
ASCII letter alone: the Kelvin sign.
-/

namespace BenchCompare.Text

/-- Whether a character has the Unicode property `White_Space`. -/
def isBlank (c : Char) : Bool :=
  let n := c.toNat
  (9 ≤ n && n ≤ 13) || n == 0x20 || n == 0x85 || n == 0xA0 || n == 0x1680
    || (0x2000 ≤ n && n ≤ 0x200A) || n == 0x2028 || n == 0x2029 || n == 0x202F
    || n == 0x205F || n == 0x3000

/-- A text of blanks only; the empty text is one. -/
def isBlankText (cs : List Char) : Bool :=
  cs.all isBlank

/-- The text without its leading blanks. -/
def trimStart (cs : List Char) : List Char :=
  cs.dropWhile isBlank

/-- The text without its trailing blanks. -/
def trimEnd : List Char → List Char
  | [] => []
  | c :: cs =>
    match trimEnd cs with
    | [] => if isBlank c then [] else [c]
    | rest => c :: rest

/-- The text without the blanks at its two ends. -/
def trim (cs : List Char) : List Char :=
  trimEnd (trimStart cs)

/-! ### Pieces -/

/-- The pieces between the characters that `sep` holds of; always at least one piece. -/
def pieces (sep : Char → Bool) : List Char → List (List Char)
  | [] => [[]]
  | c :: cs =>
    if sep c then [] :: pieces sep cs
    else
      match pieces sep cs with
      | [] => [[c]]
      | first :: rest => (c :: first) :: rest

/-- The maximal blank-free words of a text, in order. -/
def words (cs : List Char) : List (List Char) :=
  (pieces isBlank cs).filter (fun word => !word.isEmpty)

/-- The pieces without the last one if that is empty. -/
def dropFinalEmpty : List (List Char) → List (List Char)
  | [] => []
  | [last] => if last.isEmpty then [] else [last]
  | first :: second :: rest => first :: dropFinalEmpty (second :: rest)

/-- The lines of a text: each ends at a line feed, and the last one also at the end of the text. -/
def lines (cs : List Char) : List (List Char) :=
  dropFinalEmpty (pieces (· == '\n') cs)

/-! ### Cutting once -/

/-- The text before and after the first occurrence of the character `mark`. -/
def cutAtChar? (mark : Char) : List Char → Option (List Char × List Char)
  | [] => none
  | c :: cs =>
    if c = mark then some ([], cs)
    else (cutAtChar? mark cs).map fun (before, after) => (c :: before, after)

/-- The text before and after the first occurrence of the text `mark`. -/
def cutAt? (mark : List Char) : List Char → Option (List Char × List Char)
  | [] => if mark.isEmpty then some ([], []) else none
  | c :: cs =>
    match mark.isPrefixOf? (c :: cs) with
    | some after => some ([], after)
    | none => (cutAt? mark cs).map fun (before, after) => (c :: before, after)

/-- Whether `mark` occurs in the text. -/
def contains (mark cs : List Char) : Bool :=
  (cutAt? mark cs).isSome

/-! ### Letters -/

/-- The lower-case form of a character as far as it can matter to an ASCII name. -/
def lowerChar (c : Char) : Char :=
  if c = Char.ofNat 0x212A then 'k' else c.toLower

/-- The text as it is compared with the lower-case ASCII names. -/
def lowerName (s : String) : String :=
  String.ofList (s.toList.map lowerChar)

/-- Whether two ASCII texts differ in the case of their ASCII letters at most. -/
def sameLetters (s t : List Char) : Bool :=
  s.map Char.toLower == t.map Char.toLower

end BenchCompare.Text
