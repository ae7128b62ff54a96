import BenchCompare.Yaml.Node

/-!
# Values of a YAML text

A value is a node in which every alias has been replaced.  An alias for a scalar becomes that
scalar; what an alias for a collection holds is not looked at, because the collection may contain
the alias.
-/

namespace BenchCompare

/-- A scalar with its tag. -/
structure YamlScalar where
  text : List Char
  tag : Option (List Char)
  style : Yaml.ScalarStyle
  deriving DecidableEq, Repr

/-- A value of a text. -/
inductive YamlValue where
  | scalar (scalar : YamlScalar)
  | sequence (items : List YamlValue)
  | mapping (entries : List (YamlValue × YamlValue))
  | aliasOfCollection

namespace YamlValue

/-- The values of anchors, the latest first. -/
abbrev Anchors := List (List Char × YamlValue)

/-- The anchors with one more, if there is one. -/
def bind (anchors : Anchors) (properties : Yaml.Properties) (value : YamlValue) : Anchors :=
  match properties.anchor with
  | some name => (name, value) :: anchors
  | none => anchors

mutual

/-- The value of a node after the given anchors, and the anchors after the node; `none` if an alias
has no anchor. -/
def ofNode? (anchors : Anchors) : Yaml.Node → Option (YamlValue × Anchors)
  | .alias name => (anchors.lookup name).map fun value => (value, anchors)
  | .scalar properties text style =>
    let value := scalar { text, tag := properties.tag, style }
    some (value, bind anchors properties value)
  | .sequence properties items =>
    (ofNodes? (bind anchors properties aliasOfCollection) items).map fun (items, anchors) =>
      (sequence items, anchors)
  | .mapping properties entries =>
    (ofEntries? (bind anchors properties aliasOfCollection) entries).map fun (entries, anchors) =>
      (mapping entries, anchors)

/-- The values of nodes, one after the other. -/
def ofNodes? (anchors : Anchors) : List Yaml.Node → Option (List YamlValue × Anchors)
  | [] => some ([], anchors)
  | node :: rest =>
    match ofNode? anchors node with
    | none => none
    | some (value, anchors) =>
      (ofNodes? anchors rest).map fun (values, anchors) => (value :: values, anchors)

/-- The values of entries, one after the other. -/
def ofEntries? (anchors : Anchors) :
    List (Yaml.Node × Yaml.Node) → Option (List (YamlValue × YamlValue) × Anchors)
  | [] => some ([], anchors)
  | (key, value) :: rest =>
    match ofNode? anchors key with
    | none => none
    | some (key, anchors) =>
      match ofNode? anchors value with
      | none => none
      | some (value, anchors) =>
        (ofEntries? anchors rest).map fun (entries, anchors) => ((key, value) :: entries, anchors)

end

/-- The value of a text; `some none` for a text without any. -/
def parse? (text : String) : Option (Option YamlValue) := do
  match ← Yaml.Node.ofTokens? (← Yaml.Token.ofText? text.toList) with
  | none => return none
  | some node =>
    let (value, _) ← ofNode? [] node
    return some value

/-! ### Simple values -/

/-- The text of a scalar of any kind. -/
def asText? : YamlValue → Option String
  | scalar s => some (String.ofList s.text)
  | _ => none

end YamlValue

end BenchCompare
