import BenchCompare.Text.Basic

/-!
# File paths

A path is a text whose parts are separated by slashes.  It is kept as it was written; only the
functions that ask for its last part, or for the path in front of that, pass over empty parts and
over parts that are a single point.  A point at the very beginning of a path counts as a part.
-/

namespace BenchCompare

/-- A file path. -/
structure Path where
  text : String
  deriving DecidableEq, Repr

namespace Path

/-- Whether a path begins at the root. -/
def isAbsolute (path : Path) : Bool :=
  path.text.toList.head? == some '/'

/-- Whether a part of a path leads nowhere. -/
def isIdle (part : List Char) : Bool :=
  part == [] || part == ['.']

/-- The parts of a path; the empty part in front of the first slash of an absolute path is left
out. -/
def rawParts (path : Path) : List (List Char) :=
  let parts := Text.pieces (· == '/') path.text.toList
  if path.isAbsolute then parts.tail else parts

/-- The parts without the idle ones at the end.  With `keepFirst`, a point in the first place
stays. -/
def dropIdleEnd (keepFirst : Bool) : List (List Char) → List (List Char)
  | [] => []
  | part :: rest =>
    match dropIdleEnd false rest with
    | [] => if isIdle part && !(keepFirst && part == ['.']) then [] else [part]
    | kept => part :: kept

/-- The parts of a path up to the last one that leads somewhere. -/
def parts (path : Path) : List (List Char) :=
  dropIdleEnd (!path.isAbsolute) path.rawParts

/-- The path with the given parts. -/
def ofParts (absolute : Bool) (parts : List (List Char)) : Path :=
  let text := ['/'].intercalate parts
  ⟨String.ofList (if absolute then '/' :: text else text)⟩

/-- The path without its last part, if it has a part. -/
def parent? (path : Path) : Option Path :=
  match path.parts with
  | [] => none
  | parts => some (ofParts path.isAbsolute (dropIdleEnd (!path.isAbsolute) parts.dropLast))

/-- The last part of a path, if it is the name of a file or a directory. -/
def fileName? (path : Path) : Option (List Char) :=
  match path.parts.getLast? with
  | none => none
  | some name => if name == ['.'] || name == ['.', '.'] then none else some name

/-- A name cut at its last point.  A name without a point, or with its only point in front, is not
cut. -/
def cutName (name : List Char) : List Char × Option (List Char) :=
  let after := (name.reverse.takeWhile (· != '.')).reverse
  let before := name.take (name.length - after.length - 1)
  if after.length = name.length || before.isEmpty then (name, none) else (before, some after)

/-- The name of the file without its extension. -/
def stem? (path : Path) : Option (List Char) :=
  path.fileName?.map fun name => (cutName name).1

/-- The extension of the name of the file. -/
def extension? (path : Path) : Option (List Char) :=
  path.fileName?.bind fun name => (cutName name).2

/-- Whether a path has an extension, in any case. -/
def hasExtension (path : Path) (extension : String) : Bool :=
  path.extension?.any (Text.sameLetters extension.toList)

/-- A path seen from a directory. -/
def join (directory path : Path) : Path :=
  if path.isAbsolute then path
  else
    let base := directory.text.toList
    let slash := if base.isEmpty || base.getLast? == some '/' then [] else ['/']
    ⟨String.ofList (base ++ slash ++ path.text.toList)⟩

/-- A path whose leading `~/` stands for the home directory. -/
def expandHome (path home : Path) : Path :=
  match "~/".toList.isPrefixOf? path.text.toList with
  | some rest => home.join ⟨String.ofList rest⟩
  | none => path

/-- Whether a path names a file in YAML. -/
def isYaml (path : Path) : Bool :=
  path.extension?.any fun extension =>
    extension == "yaml".toList || extension == "yml".toList

end Path

end BenchCompare
