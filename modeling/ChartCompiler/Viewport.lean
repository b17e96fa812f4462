import ChartCompiler.Json.Decode

/-!
The container a chart is drawn into.
-/

namespace ChartCompiler

/-- Size in pixels, and whether it is a small touch screen. -/
structure Viewport where
  width : Nat := 800
  height : Nat := 600
  mobile : Bool := false
deriving DecidableEq, Repr

namespace Viewport

instance : Inhabited Viewport := ⟨{}⟩

/-- A small touch screen of the given size. -/
def touchScreen (width height : Nat) : Viewport :=
  ⟨width, height, true⟩

/-- Takes in one member. -/
def step (viewport : Viewport) (key : String) (value : Json) : Decoded Viewport :=
  match key with
  | "width" => return { viewport with width := ← Decode.size value }
  | "height" => return { viewport with height := ← Decode.size value }
  | "mobile" => return { viewport with mobile := ← Decode.bool value }
  | _ => .ok viewport

/-- Reads a viewport; members that are missing keep their usual value. -/
def ofJson : Json → Decoded Viewport :=
  Decode.record "struct ViewportOptions" ["width", "height", "mobile"] step {}

/-- A viewport as JSON. -/
def toJson (viewport : Viewport) : Json :=
  .object [("width", .int viewport.width), ("height", .int viewport.height),
    ("mobile", .bool viewport.mobile)]

end Viewport

end ChartCompiler
