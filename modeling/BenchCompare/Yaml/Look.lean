import BenchCompare.Binary64.Reader
import BenchCompare.Json.Lexeme

/-!
# What a plain scalar looks like

A plain scalar may look like no value, like a truth value, or like a number.  A whole number has an
optional sign and digits in base ten, or in another base after a mark; a run of digits after a zero
is no number.  Other numbers are written in decimal, or are one of the words for infinity and for
what is no number.
-/

namespace BenchCompare.Yaml

/-- Whether a plain scalar stands for no value. -/
def looksNull (cs : List Char) : Bool :=
  cs.isEmpty || ["null", "Null", "NULL", "~"].contains (String.ofList cs)

/-- Whether a plain scalar stands for a truth value. -/
def looksBoolean (cs : List Char) : Bool :=
  ["true", "True", "TRUE", "false", "False", "FALSE"].contains (String.ofList cs)

/-- The number with the given digits in a base, if it is at most `limit`. -/
def digitsIn? (base limit : Nat) (cs : List Char) : Option Nat :=
  if cs.isEmpty then none
  else
    cs.foldlM (fun n c =>
      match Json.hexValue? c with
      | none => none
      | some d => if d < base ∧ n * base + d ≤ limit then some (n * base + d) else none) 0

/-- Whether a text begins with a sign. -/
def hasSign : List Char → Bool
  | c :: _ => c == '+' || c == '-'
  | [] => false

/-- The text without a sign in front of it. -/
def dropSign (cs : List Char) : List Char :=
  if hasSign cs then cs.drop 1 else cs

/-- The text without a plus sign in front of it. -/
def dropPlus : List Char → List Char
  | '+' :: cs => cs
  | cs => cs

/-- Whether a text is a run of digits after a zero, apart from a sign. -/
def hasLeadingZero (cs : List Char) : Bool :=
  match dropSign cs with
  | '0' :: d :: rest => (d :: rest).all Char.isDigit
  | _ => false

/-- The bases other than ten, each with its mark. -/
def bases : List (List Char × Nat) :=
  [(['0', 'x'], 16), (['0', 'o'], 8), (['0', 'b'], 2)]

/-- The number without a sign in one of the bases other than ten. -/
def marked? (limit : Nat) (cs : List Char) : Option Nat :=
  bases.findSome? fun (mark, base) => (mark.isPrefixOf? cs).bind (digitsIn? base limit)

/-- Whether a sign follows the mark of a base. -/
def hasSignAfterMark (cs : List Char) : Bool :=
  bases.any fun (mark, _) => (mark.isPrefixOf? cs).any hasSign

/-- The whole number from zero to `limit` that a plain scalar stands for. -/
def natural? (limit : Nat) (cs : List Char) : Option Nat :=
  let digits := dropPlus cs
  if hasSignAfterMark digits then none
  else
    match marked? limit digits with
    | some n => some n
    | none => if hasSign digits || hasLeadingZero cs then none else digitsIn? 10 limit digits

/-- Whether a plain scalar stands for a negative whole number, not below `-limit`. -/
def looksNegative (limit : Nat) : List Char → Bool
  | '-' :: digits =>
    (marked? limit digits).isSome
      || (!hasLeadingZero digits && (digitsIn? 10 limit digits).isSome)
  | _ => false

/-- Whether a plain scalar stands for a whole number. -/
def looksWhole (cs : List Char) : Bool :=
  (natural? (Nat.pow 2 128 - 1) cs).isSome || looksNegative (Nat.pow 2 127) cs

/-- Whether a plain scalar stands for a number that need not be whole. -/
def looksReal (cs : List Char) : Bool :=
  let digits := dropPlus cs
  let isOneOf (words : List String) (cs : List Char) := words.contains (String.ofList cs)
  if hasSign digits && digits ≠ cs then false
  else
    isOneOf [".inf", ".Inf", ".INF"] digits || isOneOf ["-.inf", "-.Inf", "-.INF"] cs
      || isOneOf [".nan", ".NaN", ".NAN"] cs
      || (Binary64.parse? digits).any Binary64.isFinite

/-- Whether a plain scalar would be read as something that is no text, or could be. -/
def looksOther (cs : List Char) : Bool :=
  looksNull cs || looksBoolean cs || looksWhole cs || hasLeadingZero cs || looksReal cs

end BenchCompare.Yaml
