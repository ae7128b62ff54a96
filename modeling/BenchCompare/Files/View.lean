import BenchCompare.Path

/-!
# Files as they are read

The program reads files and asks whether a path leads to a file or to a directory.  A *view* holds
the answers to these questions, so that everything that depends on files is a function of a view.
-/

namespace BenchCompare

/-- Why a file cannot be read as text. -/
inductive FileFault where
  | notFound
  | notDirectory
  | isDirectory
  | nameTooLong
  | nulInPath
  | notText
  /-- Another refusal of the operating system, in its own words. -/
  | refused (words : String)
  deriving DecidableEq, Repr

/-- The wording of a fault. -/
def FileFault.message : FileFault → String
  | .notFound => "No such file or directory (os error 2)"
  | .notDirectory => "Not a directory (os error 20)"
  | .isDirectory => "Is a directory (os error 21)"
  | .nameTooLong => "File name too long (os error 36)"
  | .nulInPath => "file name contained an unexpected NUL byte"
  | .notText => "stream did not contain valid UTF-8"
  | .refused words => words

/-- What is known about the files. -/
structure FileView where
  readText : Path → Except FileFault String
  isFile : Path → Bool
  isDirectory : Path → Bool
  /-- Whether a file can be written at a path, in place of an earlier one if there is one. -/
  canWrite : Path → Bool

end BenchCompare
