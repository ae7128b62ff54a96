import BenchCompare.Files.View

/-!
# Files that were read beforehand

When all paths that matter are known in advance, they can be read first, and what was found at each
of them makes a view.
-/

namespace BenchCompare

/-- What was found at some paths. -/
structure FileReadings where
  found : List (Path × Except FileFault String)

namespace FileReadings

/-- What was found at a path; nothing, if it was not looked at. -/
def readText (readings : FileReadings) (path : Path) : Except FileFault String :=
  (readings.found.lookup path).getD (.error .notFound)

/-- Whether a path leads to a file.  A file counts even if its content is no text or may not be
read. -/
def isFile (readings : FileReadings) (path : Path) : Bool :=
  match readings.readText path with
  | .ok _ | .error .notText | .error (.refused _) => true
  | _ => false

/-- Whether a path leads to a directory. -/
def isDirectory (readings : FileReadings) (path : Path) : Bool :=
  match readings.readText path with
  | .error .isDirectory => true
  | _ => false

/-- The files as they were read.  Whether a file can be written is only known when it is written. -/
def view (readings : FileReadings) : FileView where
  readText := readings.readText
  isFile := readings.isFile
  isDirectory := readings.isDirectory
  canWrite _ := true

end FileReadings

end BenchCompare
