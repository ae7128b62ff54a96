import BenchCompare.Chart.Panel
import BenchCompare.Files.View

/-!
# Charts

A chart is planned before anything is drawn: there must be runs, the picture must have an acceptable
size, its directory must exist, and every run must have the chosen metrics.  These conditions are
checked in this order, and the first one that fails is reported.
-/

namespace BenchCompare

/-- What can be chosen about a chart. -/
structure ChartOptions where
  title : String := "Benchmark Comparison"
  width : UInt32 := 1000
  height : UInt32 := 600
  metrics : Selection := .both
  deriving DecidableEq, Repr

/-- Why there is no chart. -/
inductive ChartFault where
  | noRuns
  | invalidSize (width height : UInt32)
  | missingDirectory (directory : Path)
  | missingMetric (label : String) (metric : Metric)
  | drawing
  deriving DecidableEq, Repr

/-- The wording of a fault. -/
def ChartFault.message : ChartFault → String
  | .noRuns => "No benchmark results to chart"
  | .invalidSize width height =>
    "Invalid chart size " ++ Numeral.text width.toNat ++ "x" ++ Numeral.text height.toNat
      ++ " (each side must be 200-10000 pixels)"
  | .missingDirectory directory => "Output directory does not exist: " ++ directory.text
  | .missingMetric label metric => "Result '" ++ label ++ "' has no " ++ metric.name ++ " value"
  | .drawing => "Drawing failed"

/-- A chart that is ready to be drawn. -/
structure Chart where
  title : String
  width : UInt32
  height : UInt32
  labels : List String
  panels : List Panel
  deriving DecidableEq

namespace ChartOptions

/-- Whether a side of the picture has an acceptable length. -/
def isSide (length : UInt32) : Bool :=
  200 ≤ length && length ≤ 10000

/-- The fault of the options, if the picture is too small or too large. -/
def fault? (options : ChartOptions) : Option ChartFault :=
  if isSide options.width && isSide options.height then none
  else some (.invalidSize options.width options.height)

end ChartOptions

namespace Chart

/-- The panels of the metrics, in order; fails at the first metric that some run lacks. -/
def panelsOf (runs : List Run) : List Metric → Except ChartFault (List Panel)
  | [] => .ok []
  | metric :: rest =>
    match Panel.collect metric runs with
    | .error run => .error (.missingMetric run.label metric)
    | .ok panel => (panelsOf runs rest).map (panel :: ·)

/-- The directory of a file, if it is missing. -/
def missingDirectory? (isDirectory : Path → Bool) (path : Path) : Option Path :=
  path.parent?.filter fun parent => !parent.text.isEmpty && !isDirectory parent

/-- Plans a chart of the runs, to be drawn to a path. -/
def plan (isDirectory : Path → Bool) (runs : List Run) (path : Path) (options : ChartOptions) :
    Except ChartFault Chart :=
  if runs.isEmpty then .error .noRuns
  else if let some fault := options.fault? then .error fault
  else if let some directory := missingDirectory? isDirectory path then
    .error (.missingDirectory directory)
  else
    (panelsOf runs options.metrics.metrics).map fun panels =>
      { title := options.title
        width := options.width
        height := options.height
        labels := runs.map Run.label
        panels }

/-- The grid of the panels. -/
def grid (chart : Chart) : Grid :=
  .forPanels chart.panels.length

end Chart

/-! ### Pictures -/

/-- The kinds of pictures that can be written. -/
inductive PictureKind where
  | png
  | jpeg
  | bmp
  deriving DecidableEq, Repr

/-- The kind of picture that the extension of a path asks for. -/
def PictureKind.ofPath? (path : Path) : Option PictureKind :=
  if path.hasExtension "png" then some .png
  else if path.hasExtension "jpg" || path.hasExtension "jpeg" then some .jpeg
  else if path.hasExtension "bmp" then some .bmp
  else none

/-- The extensions of formats that are known to be formats of pictures but that are not written. -/
def unwrittenExtensions : List String :=
  ["avif", "gif", "webp", "tif", "tiff", "tga", "dds", "ico", "hdr", "exr", "pbm", "pam", "ppm",
    "pgm", "ff", "farbfeld", "qoi"]

/-- A chart together with the kind of picture that it becomes. -/
structure Drawing where
  chart : Chart
  kind : PictureKind
  deriving DecidableEq

/-- Plans a chart and settles how it is written.  A path without the extension of a picture, or one
at which no file can be written, cannot be drawn to. -/
def Drawing.plan (files : FileView) (runs : List Run) (path : Path) (options : ChartOptions) :
    Except ChartFault Drawing :=
  match Chart.plan files.isDirectory runs path options with
  | .error fault => .error fault
  | .ok chart =>
    match PictureKind.ofPath? path with
    | none => .error .drawing
    | some kind => if files.canWrite path then .ok { chart, kind } else .error .drawing

end BenchCompare
