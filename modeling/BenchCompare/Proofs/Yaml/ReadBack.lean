import BenchCompare.Proofs.Yaml.Entries
import BenchCompare.Yaml.Value

/-!
# Written entries are read back

The tokens of written entries are those of a mapping (`ofText?_entries`), and the mapping that they
make up has just these entries (`YamlValue.parse?_entries`): no scalar has a tag or an anchor, so
each node is a scalar as it was written.
-/

namespace BenchCompare

namespace Yaml

/-! ### Nodes -/

namespace Node

/-- A scalar without properties. -/
def bare (text : List Char) (style : ScalarStyle) : Node :=
  .scalar {} text style

/-- A scalar token is read as a scalar, unless it is one of the tokens that end the place. -/
theorem nodeUnless?_scalar {handles : Handles} {block indentless : Bool} {ends : List Token}
    {text : List Char} {style : ScalarStyle} (hends : .scalar text style ∉ ends) (fuel : Nat)
    (rest : List Token) :
    nodeUnless? handles block indentless ends (fuel + 3) (.scalar text style :: rest) =
      some (bare text style, rest) := by
  have hnext : nextIsOneOf ends (.scalar text style :: rest) = false := by
    simpa [nextIsOneOf] using hends
  rw [nodeUnless?, hnext]
  simp [node?, properties?, content?, ofScalar, bare]

/-- The key and the value of an entry. -/
def ofEntry (entry : WrittenEntry) : Node × Node :=
  (bare entry.name .plain, bare entry.text entry.style)

/-- A scalar token after a colon is read as the value of an entry. -/
theorem valueUnless?_value_scalar (handles : Handles) (text : List Char) (style : ScalarStyle)
    (fuel : Nat) (rest : List Token) :
    valueUnless? handles true [.key, .value, .blockEnd] (fuel + 4)
        (.value :: .scalar text style :: rest) =
      some (bare text style, rest) := by
  rw [valueUnless?]
  exact nodeUnless?_scalar (by simp) fuel rest

/-- The tokens of entries are read entry by entry, up to the end of the mapping. -/
theorem entries?_tokens (handles : Handles) (entries : List WrittenEntry) (fuel : Nat)
    (rest : List Token) :
    entries? handles (fuel + entries.length + 5)
        (entries.flatMap WrittenEntry.tokens ++ .blockEnd :: rest) =
      some (entries.map ofEntry, rest) := by
  induction entries with
  | nil => rfl
  | cons entry entries ih =>
    have hkey : ∀ more, nodeUnless? handles true true [.key, .value, .blockEnd]
        (fuel + entries.length + 5) (.scalar entry.name .plain :: more) =
          some (bare entry.name .plain, more) :=
      nodeUnless?_scalar (by simp) (fuel + entries.length + 2)
    have hvalue := valueUnless?_value_scalar handles entry.text entry.style
      (fuel + entries.length + 1)
    have hfuel : fuel + (entry :: entries).length + 5 = fuel + entries.length + 5 + 1 := rfl
    rw [hfuel, List.flatMap_cons, WrittenEntry.tokens]
    simp only [List.cons_append, List.nil_append, entries?, hkey, hvalue, ih, Option.map_some,
      List.map_cons, ofEntry]

/-- The beginning of a mapping is read as one. -/
theorem node?_mappingStart (handles : Handles) (fuel : Nat) (rest : List Token) :
    node? handles true false (fuel + 2) (.mappingStart :: rest) =
      (entries? handles fuel rest).map fun (entries, rest) => (.mapping {} entries, rest) := by
  rw [node?]
  · simp only [properties?, content?, nextIsOneOf]
    rfl
  · exact fun _ _ e => nomatch e

/-- There are at least as many tokens as entries. -/
theorem length_le_length_flatMap_tokens (entries : List WrittenEntry) :
    entries.length ≤ (entries.flatMap WrittenEntry.tokens).length := by
  induction entries with
  | nil => exact Nat.le_refl 0
  | cons entry entries ih =>
    rw [List.flatMap_cons, List.length_append, List.length_cons]
    simp only [WrittenEntry.tokens, List.length_cons]
    omega

/-- The tokens of a mapping are read as one node. -/
theorem ofTokens?_mapping (entries : List WrittenEntry) :
    ofTokens? (.mappingStart :: (entries.flatMap WrittenEntry.tokens ++ [.blockEnd])) =
      some (some (.mapping {} (entries.map ofEntry))) := by
  have hlength := length_le_length_flatMap_tokens entries
  obtain ⟨extra, hextra⟩ := Nat.exists_eq_add_of_le' (show entries.length + 7 ≤
    4 * (Token.mappingStart :: (entries.flatMap WrittenEntry.tokens ++ [.blockEnd])).length + 8 by
      simp only [List.length_cons, List.length_append]
      omega)
  have hroot : root? defaultHandles
      (.mappingStart :: (entries.flatMap WrittenEntry.tokens ++ [.blockEnd])) =
        some (.mapping {} (entries.map ofEntry), []) := by
    have hfuel : extra + (entries.length + 7) = extra + entries.length + 5 + 2 := rfl
    rw [root?, hextra, hfuel, node?_mappingStart, entries?_tokens]
    rfl
  simp only [ofTokens?, document?, leadingDirectives, hroot]
  rfl

end Node

end Yaml

/-! ### Values -/

namespace YamlValue

open Yaml

/-- A text without a tag. -/
def text (cs : List Char) (style : ScalarStyle) : YamlValue :=
  .scalar { text := cs, tag := none, style }

/-- The key and the value of an entry. -/
def ofEntry (entry : WrittenEntry) : YamlValue × YamlValue :=
  (text entry.name .plain, text entry.text entry.style)

/-- Entries of scalars without properties keep their texts. -/
theorem ofEntries?_map_ofEntry (anchors : Anchors) (entries : List WrittenEntry) :
    ofEntries? anchors (entries.map Node.ofEntry) = some (entries.map ofEntry, anchors) := by
  induction entries with
  | nil => rw [List.map_nil, ofEntries?, List.map_nil]
  | cons entry entries ih =>
    rw [List.map_cons, Node.ofEntry, ofEntries?]
    simp only [Node.bare, ofNode?, bind, ih, Option.map_some, List.map_cons, ofEntry, text]

/-- **Written entries are read back.**  The value of one or more entries is the mapping of them. -/
theorem parse?_entries {entries : List WrittenEntry} (hne : entries ≠ []) :
    parse? (String.ofList (entries.flatMap WrittenEntry.chars)) =
      some (some (.mapping (entries.map ofEntry))) := by
  rw [parse?, String.toList_ofList, ofText?_entries hne]
  simp only [Option.bind_eq_bind, Option.bind_some, Node.ofTokens?_mapping, ofNode?, bind,
    ofEntries?_map_ofEntry, Option.map_some, Option.pure_def]

end YamlValue

end BenchCompare
