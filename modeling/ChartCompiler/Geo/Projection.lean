import ChartCompiler.Extent

/-!
Choosing and fitting a projection for a set of points, each a longitude and a
latitude in degrees. Points that cover the continental US get the composite US
projection; any other set gets a Mercator view that frames it.
-/

namespace ChartCompiler.Geo

/-- A longitude and a latitude in degrees. -/
abbrev Point := Float × Float

/-! ## Nationwide sets -/

/-- The bounding box of the continental US in degrees. -/
def usTop : Float := 49.3457868
def usLeft : Float := -124.7844079
def usRight : Float := -66.9513812
def usBottom : Float := 24.7433195

/-- The point lies in the box. -/
def insideUs (p : Point) : Bool :=
  usBottom ≤ p.2 && p.2 ≤ usTop && usLeft ≤ p.1 && p.1 ≤ usRight

/-- A whole number as a float. -/
def floatOfNat (n : Nat) : Float :=
  Float.ofScientific n false 0

/-- The share of the points that lie in the box; zero without points. -/
def fractionInsideUs (points : List Point) : Float :=
  if points.isEmpty then 0.0
  else floatOfNat (points.filter insideUs).length / floatOfNat points.length

/-- More than four fifths of the points lie in the box, and they spread over
more than a fifth of its width and a tenth of its height. A cluster around one
city fails the second test. -/
def isNationwideUs (points : List Point) : Bool :=
  if fractionInsideUs points ≤ 0.8 then false
  else
    match Extent.ofFloats (points.map Prod.fst), Extent.ofFloats (points.map Prod.snd) with
    | some longitudes, some latitudes =>
      (usRight - usLeft) * 0.2 < longitudes.span && (usTop - usBottom) * 0.1 < latitudes.span
    | _, _ => false

/-! ## Fitting a Mercator view -/

/-- The latitude at which the Mercator square ends. -/
def mercatorLimit : Float := 85.05113

def pi : Float := 3.14159265358979323846

/-- Degrees as radians. -/
def radians (degrees : Float) : Float :=
  degrees * (pi / 180.0)

/-- A number held between two bounds. -/
def clamp (low high x : Float) : Float :=
  let x := if x < low then low else x
  if high < x then high else x

/-- The position of a point on the Mercator plane. -/
def mercator (p : Point) : Point :=
  let latitude := radians (clamp (-mercatorLimit) mercatorLimit p.2)
  (radians p.1, (Float.tan (pi / 4.0 + latitude / 2.0)).log)

/-- A view of the Mercator plane. -/
structure MercatorFit where
  /-- the factor on the smaller side of the view -/
  scale : Float
  /-- longitude and latitude in degrees -/
  center : Point

/-- The view that shows the points in nine tenths of its smaller side. A single
location has no spread and is framed as the whole world would be. -/
def mercatorFit (points : List Point) : Option MercatorFit := do
  let projected := points.map mercator
  let xs ← Extent.ofFloats (projected.map Prod.fst)
  let ys ← Extent.ofFloats (projected.map Prod.snd)
  let longitudes ← Extent.ofFloats (points.map Prod.fst)
  let latitudes ← Extent.ofFloats (points.map Prod.snd)
  let spread := if xs.span < ys.span then ys.span else xs.span
  let scale := if 0.0 < spread then 0.9 / spread else 0.9 / (2.0 * pi)
  return ⟨scale, (longitudes.center, latitudes.center)⟩

end ChartCompiler.Geo
