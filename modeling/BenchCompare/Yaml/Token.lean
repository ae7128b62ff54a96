import BenchCompare.Yaml.Scalar
import BenchCompare.Yaml.Tag

/-!
# Tokens of a YAML text

The tokens of a text make its structure explicit: where collections begin and end, and which parts
are keys and values.  Indentation opens and closes block collections.

Whether a part of a text is a key shows only at the colon after it.  So every part that might be a
key is remembered as a *candidate*, with the number of its token; a colon then inserts the key token
in front of it, and the beginning of a mapping if the indentation asks for one.  A candidate must be
on one line and not too long.
-/

namespace BenchCompare.Yaml

/-- How a scalar is written. -/
inductive ScalarStyle where
  | plain
  | singleQuoted
  | doubleQuoted
  | literal
  | folded
  deriving DecidableEq, Repr

/-- A token of a text. -/
inductive Token where
  | directive (directive : Directive)
  | documentStart
  | documentEnd
  | sequenceStart
  | mappingStart
  | blockEnd
  | flowSequenceStart
  | flowSequenceEnd
  | flowMappingStart
  | flowMappingEnd
  | entry
  | flowEntry
  | key
  | value
  | alias (name : List Char)
  | anchor (name : List Char)
  | tag (name : TagName)
  | scalar (text : List Char) (style : ScalarStyle)
  deriving DecidableEq, Repr

/-- A part of a text that might be a key. -/
structure KeyCandidate where
  /-- How many tokens are in front of it. -/
  position : Nat
  index : Nat
  line : Nat
  column : Nat
  /-- Whether nothing but a key can stand at this place. -/
  required : Bool
  deriving DecidableEq, Repr

/-- How far a text has been read. -/
structure Scan where
  here : Cursor
  tokens : List Token := []
  /-- The column of the innermost block collection, `-1` outside all of them. -/
  indent : Int := -1
  /-- The columns of the collections around it. -/
  outer : List Int := []
  /-- Whether a key may begin here. -/
  keyAllowed : Bool := true
  /-- The candidate of each open flow collection, and last the one outside all of them. -/
  candidates : List (Option KeyCandidate) := [none]
  deriving DecidableEq, Repr

namespace Scan

/-- Whether a flow collection is open. -/
def inFlow (s : Scan) : Bool :=
  1 < s.candidates.length

/-- The state with one more token. -/
def push (s : Scan) (token : Token) : Scan :=
  { s with tokens := s.tokens ++ [token] }

/-- The state with the position moved to where only `rest` is left. -/
def moveTo (s : Scan) (rest : List Char) : Scan :=
  { s with here := s.here.skipTo rest }

/-- The state with the position moved by some characters. -/
def skip (s : Scan) (n : Nat) : Scan :=
  { s with here := s.here.skip n }

/-! ### Indentation -/

/-- Ends the collections in `outer` that are deeper than a column. -/
def endDeeper (column : Int) (tokens : List Token) (indent : Int) :
    List Int → List Token × Int × List Int
  | [] => (tokens, indent, [])
  | around :: outer =>
    if column < indent then endDeeper column (tokens ++ [.blockEnd]) around outer
    else (tokens, indent, around :: outer)

/-- Ends the block collections that are deeper than a column. -/
def unindent (s : Scan) (column : Int) : Scan :=
  if s.inFlow then s
  else
    let (tokens, indent, outer) := endDeeper column s.tokens s.indent s.outer
    { s with tokens, indent, outer }

/-- Begins a block collection at a column, unless there is one already; its first token goes in
front of all but `position` tokens. -/
def indentTo (s : Scan) (column position : Nat) (token : Token) : Scan :=
  if s.inFlow || (column : Int) ≤ s.indent then s
  else
    { s with
      tokens := s.tokens.insertIdx position token
      indent := column
      outer := s.indent :: s.outer }

/-! ### Candidates -/

/-- The greatest length of a key. -/
def keyLimit : Nat := 1024

/-- Whether a candidate can still become a key. -/
def isFresh (s : Scan) (candidate : KeyCandidate) : Bool :=
  candidate.line == s.here.line && s.here.index ≤ candidate.index + keyLimit

/-- The candidate of the innermost flow collection. -/
def candidate? (s : Scan) : Option KeyCandidate :=
  s.candidates.head?.join

/-- The state with another candidate in the innermost flow collection. -/
def setCandidate (s : Scan) (candidate : Option KeyCandidate) : Scan :=
  { s with candidates := candidate :: s.candidates.tail }

/-- The state without the candidate; fails if it had to become a key. -/
def dropCandidate? (s : Scan) : Option Scan :=
  if s.candidate?.any KeyCandidate.required then none else some (s.setCandidate none)

/-- The state in which what comes next is a candidate, if a key may begin here. -/
def saveCandidate? (s : Scan) : Option Scan :=
  if s.keyAllowed then
    s.dropCandidate?.map fun dropped =>
      dropped.setCandidate <| some
        { position := s.tokens.length
          index := s.here.index
          line := s.here.line
          column := s.here.column
          required := !s.inFlow && s.indent = s.here.column }
  else some s

/-! ### Between tokens -/

/-- Goes to the next token: passes over blanks, comments and line breaks.  After a line break
outside flow collections a key may begin.  There are at most as many characters as the number says.
-/
def toToken : Nat → Scan → Scan
  | 0, s => s
  | fuel + 1, s =>
    match s.here.rest with
    | [] => s
    | c :: _ =>
      if c = ' ' || (c = '\t' && (s.inFlow || !s.keyAllowed)) then toToken fuel (s.skip 1)
      else if c = '#' then
        toToken fuel { s with here := s.here.skipWhile fun c => !isBreak c }
      else if isBreak c then
        toToken fuel { s.skip 1 with keyAllowed := s.keyAllowed || !s.inFlow }
      else s

/-! ### Tokens -/

/-- The state after all block collections were ended at the edge of a document. -/
def leaveAll? (s : Scan) : Option Scan :=
  (s.unindent (-1)).dropCandidate?.map fun s => { s with keyAllowed := false }

/-- Reads a directive. -/
def directive? (s : Scan) : Option Scan := do
  let s ← s.leaveAll?
  let (directive, rest) ← Yaml.directive? (s.here.rest.drop 1)
  return (s.moveTo rest).push (.directive directive)

/-- Reads the marker of a document. -/
def documentMarker? (s : Scan) (token : Token) : Option Scan :=
  s.leaveAll?.map fun s => (s.skip 3).push token

/-- Reads the opening bracket of a flow collection. -/
def flowStart? (s : Scan) (token : Token) : Option Scan :=
  s.saveCandidate?.map fun s =>
    { (s.skip 1).push token with keyAllowed := true, candidates := none :: s.candidates }

/-- Reads the closing bracket of a flow collection. -/
def flowEnd? (s : Scan) (token : Token) : Option Scan :=
  s.dropCandidate?.map fun s =>
    { (s.skip 1).push token with
      keyAllowed := false
      candidates := if s.inFlow then s.candidates.tail else s.candidates }

/-- Reads a comma in a flow collection. -/
def flowEntry? (s : Scan) : Option Scan :=
  s.dropCandidate?.map fun s => { (s.skip 1).push .flowEntry with keyAllowed := true }

/-- The state in which a block collection with the given first token can go on here; fails if that
is not possible in the middle of a line. -/
def openBlock? (s : Scan) (token : Token) : Option Scan :=
  if s.inFlow then some s
  else if s.keyAllowed then some (s.indentTo s.here.column s.tokens.length token)
  else none

/-- Reads the dash in front of an item. -/
def entry? (s : Scan) : Option Scan := do
  let s ← s.openBlock? .sequenceStart
  let s ← s.dropCandidate?
  return { (s.skip 1).push .entry with keyAllowed := true }

/-- Reads the question mark in front of a key. -/
def key? (s : Scan) : Option Scan := do
  let s ← s.openBlock? .mappingStart
  let s ← s.dropCandidate?
  return { (s.skip 1).push .key with keyAllowed := !s.inFlow }

/-- Turns a candidate into a key. -/
def confirm (s : Scan) (candidate : KeyCandidate) : Scan :=
  let s := { s with tokens := s.tokens.insertIdx candidate.position .key }
  (s.indentTo candidate.column candidate.position .mappingStart).setCandidate none

/-- Reads the colon in front of a value. -/
def value? (s : Scan) : Option Scan :=
  match s.candidate? with
  | some candidate =>
    if s.isFresh candidate then
      some { ((s.confirm candidate).skip 1).push .value with keyAllowed := false }
    else if candidate.required then none
    else valueAlone? (s.setCandidate none)
  | none => valueAlone? s
where
  /-- Reads the colon in front of a value that has no key on its line. -/
  valueAlone? (s : Scan) : Option Scan :=
    (s.openBlock? .mappingStart).map fun s =>
      { (s.skip 1).push .value with keyAllowed := !s.inFlow }

/-- Reads an alias or an anchor. -/
def name? (s : Scan) (token : List Char → Token) : Option Scan := do
  let s ← s.saveCandidate?
  let (name, rest) ← anchorName? (s.here.rest.drop 1)
  return { (s.moveTo rest).push (token name) with keyAllowed := false }

/-- Reads a tag. -/
def tag? (s : Scan) : Option Scan := do
  let s ← s.saveCandidate?
  let (name, rest) ← Yaml.tag? s.inFlow s.here.rest
  return { (s.moveTo rest).push (.tag name) with keyAllowed := false }

/-- Reads a block scalar. -/
def block? (s : Scan) (style : ScalarStyle) : Option Scan := do
  let s ← s.dropCandidate?
  let (text, rest) ← Yaml.block? (style == .folded) s.indent (s.here.rest.drop 1)
  return { (s.moveTo rest).push (.scalar text style) with keyAllowed := true }

/-- Reads a quoted scalar. -/
def quoted? (s : Scan) (style : ScalarStyle) : Option Scan := do
  let s ← s.saveCandidate?
  let body := s.here.rest.drop 1
  let (text, rest) ←
    if style = .singleQuoted then singleQuoted? .none body else doubleQuoted? .none body
  return { (s.moveTo rest).push (.scalar text style) with keyAllowed := false }

/-- Reads a plain scalar. -/
def plain? (s : Scan) : Option Scan := do
  let s ← s.saveCandidate?
  let text ← Yaml.plain? s.inFlow (s.indent + 1).toNat .none s.here.column s.here.rest
  return { (s.moveTo text.rest).push (.scalar text.value .plain) with keyAllowed := text.broken }

/-- Whether a plain scalar may begin with a character, followed by the given text. -/
def beginsPlain (flow : Bool) (c : Char) (after : List Char) : Bool :=
  if c = '-' then !after.head?.any Yaml.isSpace
  else if c = '?' || c = ':' then !flow && !atGap after
  else
    isSolid c && !isFlowMark c && !leadingMarks.contains c

/-- Reads the token that begins with the character `c`. -/
def token? (s : Scan) (c : Char) (after : List Char) : Option Scan :=
  let lineStart := s.here.column = 0
  if lineStart && c = '%' then s.directive?
  else if lineStart && atMarker '-' (c :: after) then s.documentMarker? .documentStart
  else if lineStart && atMarker '.' (c :: after) then s.documentMarker? .documentEnd
  else if c = '[' then s.flowStart? .flowSequenceStart
  else if c = '\x7b' then s.flowStart? .flowMappingStart
  else if c = ']' then s.flowEnd? .flowSequenceEnd
  else if c = '\x7d' then s.flowEnd? .flowMappingEnd
  else if c = ',' then s.flowEntry?
  else if c = '-' && atGap after then s.entry?
  else if c = '?' && (s.inFlow || atGap after) then s.key?
  else if c = ':' && (s.inFlow || atGap after) then s.value?
  else if c = '*' then s.name? .alias
  else if c = '&' then s.name? .anchor
  else if c = '!' then s.tag?
  else if c = '|' && !s.inFlow then s.block? .literal
  else if c = '>' && !s.inFlow then s.block? .folded
  else if c = '\'' then s.quoted? .singleQuoted
  else if c = '"' then s.quoted? .doubleQuoted
  else if beginsPlain s.inFlow c after then s.plain?
  else none

/-- Reads all tokens.  There are at most as many as the number says. -/
def run? : Nat → Scan → Option Scan
  | 0, _ => none
  | fuel + 1, s =>
    let s := toToken (s.here.rest.length + 1) s
    match s.here.rest with
    | [] => s.leaveAll?
    | c :: after => ((s.unindent s.here.column).token? c after).bind (run? fuel)

end Scan

/-- The tokens of a text. -/
def Token.ofText? (text : List Char) : Option (List Token) :=
  if text.all isAllowed then
    let cs := unifyBreaks text
    (Scan.run? (cs.length + 1) { here := .start cs }).map Scan.tokens
  else none

end BenchCompare.Yaml
