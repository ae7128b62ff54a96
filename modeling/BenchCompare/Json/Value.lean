import BenchCompare.Binary64.Style

/-!
# JSON values

A JSON value keeps the members of an object in the order of the text, duplicates included.  Whole
numbers are kept apart from numbers with a fraction or an exponent.
-/

namespace BenchCompare

/-- A JSON value. -/
inductive Json where
  | null
  | boolean (value : Bool)
  | whole (value : Int)
  | number (value : Binary64)
  | text (value : String)
  | array (items : List Json)
  | object (members : List (String × Json))

namespace Json

/-- Numbers are written in the shortest way, with an exponent from `10¹⁶` upwards and below
`10⁻⁵`. -/
def numberStyle : NumberStyle where
  plainFrom := some (-5)
  plainBelow := some 16
  pointZero := true
  exponentPlus := true
  tie := .toEven

/-- A count as a JSON value. -/
def count32 (n : UInt32) : Json :=
  .whole n.toNat

/-- A count as a JSON value. -/
def count64 (n : UInt64) : Json :=
  .whole n.toNat

/-- The member `name` of an object, if there is a value for it. -/
def optionalMember (name : String) (value : Option Json) : List (String × Json) :=
  match value with
  | some v => [(name, v)]
  | none => []

end Json

end BenchCompare
