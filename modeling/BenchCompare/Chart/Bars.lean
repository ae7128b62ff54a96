import BenchCompare.Chart.Plan
import BenchCompare.Picture.Bmp
import BenchCompare.Picture.Jpeg
import BenchCompare.Picture.Png

/-!
# Charts as pictures

A chart becomes a canvas of bars: the panels lie in their grid below some room at the top, and each
panel has an axis at its left, an axis below, and one bar for each run.  A bar fills the same share
of the height of its panel as its value does of the vertical axis.
-/

namespace BenchCompare

/-- The colour of the axes. -/
def axisColour : Colour where
  red := 80
  green := 80
  blue := 80

/-- The colours of the bars, which are used in turn. -/
def barColours : List Colour :=
  [⟨76, 114, 176⟩, ⟨221, 132, 82⟩, ⟨85, 168, 104⟩, ⟨196, 78, 82⟩, ⟨129, 114, 179⟩, ⟨147, 120, 96⟩]

/-- The colour of the bar at a position. -/
def barColour (position : Nat) : Colour :=
  barColours.getD (position % barColours.length) axisColour

/-- The room at the top of a picture. -/
def topRoom : Nat := 40

/-- The room around a panel. -/
def panelMargin : Nat := 15

namespace Panel

/-- The height of the bar of a value, in pixels. -/
def barHeight (panel : Panel) (height : Nat) (value : Binary64) : Nat :=
  min height ((value.div panel.yMax).mul (.ofNat height)).toCount.toNat

/-- The bars of a panel within an area; `position` is the place of the first one. -/
def bars (panel : Panel) (area : Box) (slot : Nat) (position : Nat) : List Binary64 → List Box
  | [] => []
  | value :: rest =>
    let height := panel.barHeight area.height value
    { left := area.left + position * slot + slot / 5
      top := area.top + area.height - height
      width := max 1 (slot - 2 * (slot / 5))
      height
      colour := barColour position } :: bars panel area slot (position + 1) rest

/-- The boxes of a panel within an area, the axes in front. -/
def boxes (panel : Panel) (area : Box) : List Box :=
  { area with width := 1, colour := axisColour }
    :: { area with top := area.top + area.height, height := 1, colour := axisColour }
    :: panel.bars area (area.width / max 1 panel.values.length) 0 panel.values

end Panel

namespace Chart

/-- The area of the panel at a position. -/
def panelArea (chart : Chart) (position : Nat) : Box :=
  let width := chart.width.toNat / chart.grid.columns
  let height := (chart.height.toNat - topRoom) / chart.grid.rows
  { left := position % chart.grid.columns * width + panelMargin
    top := topRoom + position / chart.grid.columns * height + panelMargin
    width := width - 2 * panelMargin
    height := height - 2 * panelMargin
    colour := axisColour }

/-- The canvas of a chart. -/
def canvas (chart : Chart) : Canvas where
  width := chart.width.toNat
  height := chart.height.toNat
  boxes := chart.panels.zipIdx.flatMap fun (panel, position) =>
    panel.boxes (chart.panelArea position)

end Chart

/-- The file of a drawing. -/
def Drawing.bytes (drawing : Drawing) : ByteArray :=
  match drawing.kind with
  | .png => Png.ofCanvas drawing.chart.canvas
  | .jpeg => Jpeg.ofCanvas drawing.chart.canvas
  | .bmp => Bmp.ofCanvas drawing.chart.canvas

end BenchCompare
