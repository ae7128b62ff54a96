import BenchCompare.Json.Value

/-!
# Records in JSON

A record with named fields is read from an object, or from an array that lists the values of its
leading fields.  In an object the order of the members does not matter, members with other names are
passed over, and no field may occur twice.
-/

namespace BenchCompare.Json

/-- Whether no name occurs twice. -/
def distinctNames : List (String × Json) → Bool
  | [] => true
  | (name, _) :: rest => rest.all (fun member => member.1 ≠ name) && distinctNames rest

/-- The fields of a record with the given names, as far as they are there. -/
def fields? (names : List String) : Json → Option (List (String × Json))
  | .object members =>
    let known := members.filter fun member => names.contains member.1
    if distinctNames known then some known else none
  | .array items => if items.length ≤ names.length then some (names.zip items) else none
  | _ => none

/-- A field that has to be there. -/
def required? {α : Type} (read? : Json → Option α) (name : String)
    (fields : List (String × Json)) : Option α :=
  match fields.lookup name with
  | some value => read? value
  | none => none

/-- A field that has a default. -/
def defaulted? {α : Type} (read? : Json → Option α) (default : α) (name : String)
    (fields : List (String × Json)) : Option α :=
  match fields.lookup name with
  | some value => read? value
  | none => some default

/-- A value that may be `null`. -/
def nullable? {α : Type} (read? : Json → Option α) : Json → Option (Option α)
  | .null => some none
  | value => (read? value).map some

/-- A field that may be missing or `null`. -/
def optional? {α : Type} (read? : Json → Option α) (name : String)
    (fields : List (String × Json)) : Option (Option α) :=
  defaulted? (nullable? read?) none name fields

/-! ### Simple values -/

/-- A text. -/
def asText? : Json → Option String
  | .text s => some s
  | _ => none

/-- A number; a whole number is rounded to the nearest one. -/
def asNumber? : Json → Option Binary64
  | .whole n => some (.ofInt n)
  | .number x => some x
  | _ => none

/-- A whole number from zero to `limit`. -/
def asNatural? (limit : Nat) : Json → Option Nat
  | .whole n => if 0 ≤ n ∧ n ≤ limit then some n.toNat else none
  | _ => none

/-- A count of 32 bits. -/
def asCount32? (value : Json) : Option UInt32 :=
  (asNatural? (UInt32.size - 1) value).map UInt32.ofNat

/-- A count of 64 bits. -/
def asCount64? (value : Json) : Option UInt64 :=
  (asNatural? (UInt64.size - 1) value).map UInt64.ofNat

/-- An array of values that are all read in the same way. -/
def asList? {α : Type} (read? : Json → Option α) : Json → Option (List α)
  | .array items => items.mapM read?
  | _ => none

end BenchCompare.Json
