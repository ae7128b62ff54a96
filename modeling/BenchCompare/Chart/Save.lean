import BenchCompare.Chart.Plan
import BenchCompare.Files.Tree

/-!
# Saving charts

Drawing a chart writes one file, in place of an earlier one at the same path.  A chart that is
refused leaves all files as they are.  A chart for which the extension asks for a format that is
known but not written is found out only after its file was begun, and leaves an empty file.
-/

namespace BenchCompare

/-- What comes of drawing a chart. -/
structure Saving where
  outcome : Except ChartFault Drawing
  /-- The files afterwards. -/
  files : FileTree

namespace FileTree

/-- The files after a picture was begun but could not be written. -/
def beginPicture (tree : FileTree) (path : Path) : FileTree :=
  if unwrittenExtensions.any path.hasExtension && tree.canWrite path then
    tree.write path (.text "")
  else tree

/-- Draws a chart of the runs to a path in a tree of files. -/
def draw (tree : FileTree) (runs : List Run) (path : Path) (options : ChartOptions) : Saving :=
  match Drawing.plan tree.view runs path options with
  | .ok drawing => { outcome := .ok drawing, files := tree.write path .binary }
  | .error .drawing => { outcome := .error .drawing, files := tree.beginPicture path }
  | .error fault => { outcome := .error fault, files := tree }

end FileTree

end BenchCompare
