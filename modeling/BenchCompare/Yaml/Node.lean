import BenchCompare.Yaml.Token

/-!
# Nodes of a YAML text

A node is a scalar, a sequence, a mapping, or an alias for an earlier node; the first three may
carry an anchor and a tag.  A text is read as one node at most: a text without any token has none,
and a second document is refused.

The recursion is on a number that bounds how many steps the tokens can take.
-/

namespace BenchCompare.Yaml

/-- What may stand in front of a node. -/
structure Properties where
  anchor : Option (List Char) := none
  tag : Option (List Char) := none
  deriving DecidableEq, Repr

/-- A node of a text. -/
inductive Node where
  | alias (name : List Char)
  | scalar (properties : Properties) (text : List Char) (style : ScalarStyle)
  | sequence (properties : Properties) (items : List Node)
  | mapping (properties : Properties) (entries : List (Node × Node))

/-- What the handles of tags stand for. -/
abbrev Handles := List (List Char × List Char)

namespace Node

/-- A scalar that is not written at all. -/
def empty (properties : Properties) : Node :=
  .scalar properties [] .plain

/-- Whether the next token is one of the given ones. -/
def nextIsOneOf (expected : List Token) (tokens : List Token) : Bool :=
  tokens.head?.any expected.contains

/-- The full tag for the name of a tag. -/
def expandTag? (handles : Handles) (name : TagName) : Option (List Char) :=
  if name.handle.isEmpty then some name.suffix
  else (handles.lookup name.handle).map (· ++ name.suffix)

/-- Reads an anchor and a tag in either order, as far as they are there. -/
def properties? (handles : Handles) : List Token → Option (Properties × List Token)
  | .anchor name :: .tag tag :: rest =>
    (expandTag? handles tag).map fun tag => ({ anchor := name, tag }, rest)
  | .anchor name :: rest => some ({ anchor := some name }, rest)
  | .tag tag :: .anchor name :: rest =>
    (expandTag? handles tag).map fun tag => ({ anchor := name, tag }, rest)
  | .tag tag :: rest => (expandTag? handles tag).map fun tag => ({ tag := some tag }, rest)
  | rest => some ({}, rest)

/-- A scalar; the tag that is an exclamation mark alone counts as none. -/
def ofScalar (properties : Properties) (text : List Char) (style : ScalarStyle) : Node :=
  if properties.tag = some ['!'] then .scalar { properties with tag := none } text style
  else .scalar properties text style

mutual

/-- Reads a node.  Block collections are possible if `block` holds, and a sequence without an
indentation of its own if `indentless` holds. -/
def node? (handles : Handles) (block indentless : Bool) :
    Nat → List Token → Option (Node × List Token)
  | 0, _ => none
  | _ + 1, .alias name :: rest => some (.alias name, rest)
  | fuel + 1, tokens =>
    match properties? handles tokens with
    | none => none
    | some (properties, rest) => content? handles block indentless properties fuel rest

/-- Reads a node after its properties. -/
def content? (handles : Handles) (block indentless : Bool) (properties : Properties) :
    Nat → List Token → Option (Node × List Token)
  | 0, _ => none
  | fuel + 1, tokens =>
    match tokens with
    | .scalar text style :: rest => some (ofScalar properties text style, rest)
    | .flowSequenceStart :: rest =>
      (flowItems? handles true fuel rest).map fun (items, rest) =>
        (.sequence properties items, rest)
    | .flowMappingStart :: rest =>
      (flowEntries? handles true fuel rest).map fun (entries, rest) =>
        (.mapping properties entries, rest)
    | tokens =>
      if indentless && nextIsOneOf [.entry] tokens then
        (bareItems? handles fuel tokens).map fun (items, rest) =>
          (.sequence properties items, rest)
      else if block && nextIsOneOf [.sequenceStart] tokens then
        (items? handles fuel tokens.tail).map fun (items, rest) =>
          (.sequence properties items, rest)
      else if block && nextIsOneOf [.mappingStart] tokens then
        (entries? handles fuel tokens.tail).map fun (entries, rest) =>
          (.mapping properties entries, rest)
      else if properties = {} then none
      else some (empty properties, tokens)

/-- Reads a node, or none at all in front of certain tokens. -/
def nodeUnless? (handles : Handles) (block indentless : Bool) (ends : List Token) :
    Nat → List Token → Option (Node × List Token)
  | 0, _ => none
  | fuel + 1, tokens =>
    if nextIsOneOf ends tokens then some (empty {}, tokens)
    else node? handles block indentless fuel tokens

/-- Reads a value after its colon, if there is a colon, and if anything comes before certain
tokens. -/
def valueUnless? (handles : Handles) (block : Bool) (ends : List Token) :
    Nat → List Token → Option (Node × List Token)
  | 0, _ => none
  | fuel + 1, .value :: tokens => nodeUnless? handles block block ends fuel tokens
  | _ + 1, tokens => some (empty {}, tokens)

/-- Reads the items of a block sequence up to its end. -/
def items? (handles : Handles) : Nat → List Token → Option (List Node × List Token)
  | 0, _ => none
  | fuel + 1, .entry :: tokens =>
    match nodeUnless? handles true false [.entry, .blockEnd] fuel tokens with
    | none => none
    | some (item, rest) => (items? handles fuel rest).map fun (items, rest) => (item :: items, rest)
  | _ + 1, .blockEnd :: rest => some ([], rest)
  | _ + 1, _ => none

/-- Reads the items of a sequence without an indentation of its own. -/
def bareItems? (handles : Handles) : Nat → List Token → Option (List Node × List Token)
  | 0, _ => none
  | fuel + 1, .entry :: tokens =>
    match nodeUnless? handles true false [.entry, .key, .value, .blockEnd] fuel tokens with
    | none => none
    | some (item, rest) =>
      (bareItems? handles fuel rest).map fun (items, rest) => (item :: items, rest)
  | _ + 1, tokens => some ([], tokens)

/-- Reads the entries of a block mapping up to its end. -/
def entries? (handles : Handles) : Nat → List Token → Option (List (Node × Node) × List Token)
  | 0, _ => none
  | fuel + 1, .key :: tokens =>
    match nodeUnless? handles true true [.key, .value, .blockEnd] fuel tokens with
    | none => none
    | some (key, rest) =>
      match valueUnless? handles true [.key, .value, .blockEnd] fuel rest with
      | none => none
      | some (value, rest) =>
        (entries? handles fuel rest).map fun (entries, rest) => ((key, value) :: entries, rest)
  | _ + 1, .blockEnd :: rest => some ([], rest)
  | _ + 1, _ => none

/-- Reads the items of a flow sequence up to its end.  All but the first have a comma in front of
them. -/
def flowItems? (handles : Handles) (first : Bool) :
    Nat → List Token → Option (List Node × List Token)
  | 0, _ => none
  | _ + 1, .flowSequenceEnd :: rest => some ([], rest)
  | fuel + 1, tokens =>
    match if first then some tokens else [.flowEntry].isPrefixOf? tokens with
    | none => none
    | some (.flowSequenceEnd :: rest) => some ([], rest)
    | some (.key :: rest) =>
      match flowPair? handles fuel rest with
      | none => none
      | some (item, rest) =>
        (flowItems? handles false fuel rest).map fun (items, rest) => (item :: items, rest)
    | some tokens =>
      match node? handles false false fuel tokens with
      | none => none
      | some (item, rest) =>
        (flowItems? handles false fuel rest).map fun (items, rest) => (item :: items, rest)

/-- Reads an item of a flow sequence that is a key with a value.  Where the key is missing, the
token after it is passed over. -/
def flowPair? (handles : Handles) : Nat → List Token → Option (Node × List Token)
  | 0, _ => none
  | fuel + 1, tokens =>
    match
      if nextIsOneOf [.value, .flowEntry, .flowSequenceEnd] tokens then
        some (empty {}, tokens.tail)
      else node? handles false false fuel tokens
    with
    | none => none
    | some (key, rest) =>
      (valueUnless? handles false [.flowEntry, .flowSequenceEnd] fuel rest).map
        fun (value, rest) => (.mapping {} [(key, value)], rest)

/-- Reads the entries of a flow mapping up to its end.  All but the first have a comma in front of
them. -/
def flowEntries? (handles : Handles) (first : Bool) :
    Nat → List Token → Option (List (Node × Node) × List Token)
  | 0, _ => none
  | _ + 1, .flowMappingEnd :: rest => some ([], rest)
  | fuel + 1, tokens =>
    match if first then some tokens else [.flowEntry].isPrefixOf? tokens with
    | none => none
    | some (.flowMappingEnd :: rest) => some ([], rest)
    | some (.key :: rest) =>
      match nodeUnless? handles false false [.value, .flowEntry, .flowMappingEnd] fuel rest with
      | none => none
      | some (key, rest) =>
        match valueUnless? handles false [.flowEntry, .flowMappingEnd] fuel rest with
        | none => none
        | some (value, rest) =>
          (flowEntries? handles false fuel rest).map fun (entries, rest) =>
            ((key, value) :: entries, rest)
    | some tokens =>
      match node? handles false false fuel tokens with
      | none => none
      | some (key, rest) =>
        (flowEntries? handles false fuel rest).map fun (entries, rest) =>
          ((key, empty {}) :: entries, rest)

end

/-! ### Documents -/

/-- The directives at the beginning, and the tokens after them. -/
def leadingDirectives : List Token → List Directive × List Token
  | .directive directive :: rest =>
    let (directives, rest) := leadingDirectives rest
    (directive :: directives, rest)
  | rest => ([], rest)

/-- Whether the directives of a document name a known version, once at most. -/
def versionsValid (directives : List Directive) : Bool :=
  let versions := directives.filterMap fun
    | .version major minor => some (major, minor)
    | .tag _ _ => none
  versions.length ≤ 1 && versions.all fun version => version == (1, 1) || version == (1, 2)

/-- The handles that the directives of a document explain; `none` if one is explained twice. -/
def declaredHandles? (directives : List Directive) : Option Handles :=
  let declared := directives.filterMap fun
    | .tag handle expansion => some (handle, expansion)
    | .version _ _ => none
  if (declared.map Prod.fst).Nodup then some declared else none

/-- What handles stand for without a directive. -/
def defaultHandles : Handles :=
  [(['!'], ['!']), (['!', '!'], "tag:yaml.org,2002:".toList)]

/-- Reads the node of a document. -/
def root? (handles : Handles) (tokens : List Token) : Option (Node × List Token) :=
  node? handles true false (4 * tokens.length + 8) tokens

/-- Reads the node of a document after the marker of its beginning. -/
def markedRoot? (handles : Handles) : List Token → Option (Node × List Token)
  | [] => some (empty {}, [])
  | .directive directive :: rest => some (empty {}, .directive directive :: rest)
  | .documentStart :: rest => some (empty {}, .documentStart :: rest)
  | .documentEnd :: rest => some (empty {}, .documentEnd :: rest)
  | tokens => root? handles tokens

/-- Reads the first document. -/
def document? (tokens : List Token) : Option (Node × List Token) :=
  match leadingDirectives tokens with
  | (directives, .documentStart :: rest) => do
    let declared ← declaredHandles? directives
    if versionsValid directives then markedRoot? (declared ++ defaultHandles) rest else none
  | ([], rest) => root? defaultHandles rest
  | _ => none

/-- The node of a text; `some none` for a text without any. -/
def ofTokens? (tokens : List Token) : Option (Option Node) :=
  if tokens.isEmpty then some none
  else
    match document? tokens with
    | none => none
    | some (node, rest) => if rest.all (· == .documentEnd) then some (some node) else none

end Node

end BenchCompare.Yaml
