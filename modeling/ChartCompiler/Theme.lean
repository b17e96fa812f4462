import ChartCompiler.Config.Kind

/-!
Palettes. Every colour that depends on the theme is a member of the theme's
palette, so that a light and a dark document differ in these texts only.
-/

namespace ChartCompiler

/-- The colours of one theme. -/
structure Palette where
  /-- bars, points and other marks of a single series -/
  mark : String
  /-- the brushed layer of a line or area -/
  filteredMark : String
  /-- the second measure once brushed -/
  secondaryMark : String
  /-- the layer that is always visible -/
  ghost : String
  /-- the outline of that layer in an area chart -/
  ghostOutline : String
  /-- texts beside points -/
  pointLabel : String
  sliceLabel : String
  headlineValue : String
  headlineLabel : String
  mapLand : String
  mapBorder : String
  mapPoint : String
  hoverStroke : String
deriving DecidableEq

/-- The tint of hovered marks, outside every palette. -/
def highlightColor : String := "#FF7F7F"

/-- The palette of a theme. -/
def Theme.palette : Theme → Palette
  | light =>
    { mark := "#4C78A8"
      filteredMark := "steelblue"
      secondaryMark := "orange"
      ghost := "lightgray"
      ghostOutline := "darkgray"
      pointLabel := "#333333"
      sliceLabel := "black"
      headlineValue := "#262626"
      headlineLabel := "#595959"
      mapLand := "#e5e5e5"
      mapBorder := "white"
      mapPoint := "steelblue"
      hoverStroke := "blue" }
  | dark =>
    { mark := "#4FC3F7"
      filteredMark := "#4FC3F7"
      secondaryMark := "orange"
      ghost := "lightgray"
      ghostOutline := "darkgray"
      pointLabel := "#dddddd"
      sliceLabel := "white"
      headlineValue := "#f0f0f0"
      headlineLabel := "#d1d1d1"
      mapLand := "#e5e5e5"
      mapBorder := "white"
      mapPoint := "#4FC3F7"
      hoverStroke := "blue" }

namespace Palette

/-- The colours in the order in which they are listed. -/
def colors (p : Palette) : List (String × String) :=
  [("mark", p.mark), ("filteredMark", p.filteredMark), ("secondaryMark", p.secondaryMark),
   ("ghost", p.ghost), ("ghostOutline", p.ghostOutline), ("annotation", p.pointLabel),
   ("sliceLabel", p.sliceLabel), ("headlineValue", p.headlineValue),
   ("headlineLabel", p.headlineLabel), ("mapLand", p.mapLand), ("mapBorder", p.mapBorder),
   ("mapPoint", p.mapPoint), ("hoverStroke", p.hoverStroke)]

end Palette

end ChartCompiler
