/-!
Kinds of charts, scale types, channels and themes: the closed vocabularies of a
chart configuration, each with its names.
-/

namespace ChartCompiler

/-- A name that nothing in its vocabulary has. -/
structure UnknownName where
  /-- what was looked for -/
  vocabulary : String
  name : String
deriving DecidableEq, Repr

/-- The text of the error. -/
def UnknownName.message (e : UnknownName) : String :=
  "unknown " ++ e.vocabulary ++ " '" ++ e.name ++ "'"

/-- What was found under a name, or the error. -/
def UnknownName.orElse {α : Type} (vocabulary name : String) : Option α → Except UnknownName α
  | some a => .ok a
  | none => .error ⟨vocabulary, name⟩

/-- A kind of chart. -/
inductive ChartKind where
  | bar | barh | line | area | point | heatmap
  | donut | boxplot | treemap | beeswarm | headline | usaMap
deriving DecidableEq, Repr

namespace ChartKind

/-- Every kind. -/
def all : List ChartKind :=
  [bar, barh, line, area, point, heatmap, donut, boxplot, treemap, beeswarm, headline, usaMap]

/-- The name of a kind. -/
def name : ChartKind → String
  | bar => "bar"
  | barh => "barh"
  | line => "line"
  | area => "area"
  | point => "point"
  | heatmap => "heatmap"
  | donut => "donut"
  | boxplot => "boxplot"
  | treemap => "treemap"
  | beeswarm => "beeswarm"
  | headline => "headline"
  | usaMap => "usa-map"

/-- The kind of a name. -/
def ofName? (s : String) : Option ChartKind :=
  all.find? (·.name = s)

/-- The kind of a name, which has to exist. -/
def ofName (s : String) : Except UnknownName ChartKind :=
  UnknownName.orElse "chart type" s (ofName? s)

@[simp] theorem ofName?_name (kind : ChartKind) : ofName? kind.name = some kind := by
  cases kind <;> decide

theorem name_of_ofName? {kind : ChartKind} {s : String} (found : ofName? s = some kind) :
    kind.name = s := by
  have named := List.find?_some found
  exact of_decide_eq_true named

/-- Kinds whose document is written in marks, scales and data transforms and not
in encodings. -/
def isLowLevel : ChartKind → Bool
  | beeswarm | headline => true
  | _ => false

/-- Kinds that draw a measure over time. -/
def isTimeSeries : ChartKind → Bool
  | line | area => true
  | _ => false

end ChartKind

/-- The scale type asked for on an axis. -/
inductive ScaleType where
  | linear | log | sqrt | pow | symlog
deriving DecidableEq, Repr

namespace ScaleType

/-- Every scale type. -/
def all : List ScaleType :=
  [linear, log, sqrt, pow, symlog]

/-- The name of a scale type. -/
def name : ScaleType → String
  | linear => "linear"
  | log => "log"
  | sqrt => "sqrt"
  | pow => "pow"
  | symlog => "symlog"

/-- The scale type of a name. -/
def ofName? (s : String) : Option ScaleType :=
  all.find? (·.name = s)

/-- The scale type of a name, which has to exist. -/
def ofName (s : String) : Except UnknownName ScaleType :=
  UnknownName.orElse "scale type" s (ofName? s)

@[simp] theorem ofName?_name (scale : ScaleType) : ofName? scale.name = some scale := by
  cases scale <;> decide

theorem name_of_ofName? {scale : ScaleType} {s : String} (found : ofName? s = some scale) :
    scale.name = s := by
  have named := List.find?_some found
  exact of_decide_eq_true named

end ScaleType

/-- A visual channel that a data field may be bound to. -/
inductive Channel where
  | x | y | y2 | color | size | group | trellis | geo | note
deriving DecidableEq, Repr

namespace Channel

/-- Every channel, in the order in which bindings are listed. -/
def all : List Channel :=
  [x, y, y2, color, size, group, trellis, geo, note]

/-- The member of a configuration that holds the channel's field. -/
def key : Channel → String
  | x => "xField"
  | y => "yField"
  | y2 => "yField2"
  | color => "colorField"
  | size => "sizeField"
  | group => "groupField"
  | trellis => "trellisField"
  | geo => "geoField"
  | note => "annotationField"

/-- The channel of a configuration member. -/
def ofKey? (s : String) : Option Channel :=
  all.find? (·.key = s)

theorem mem_all (channel : Channel) : channel ∈ all := by
  cases channel <;> decide

end Channel

/-- The colour theme of a document. -/
inductive Theme where
  | light
  | dark
deriving DecidableEq, Repr

namespace Theme

/-- Both themes. -/
def all : List Theme :=
  [light, dark]

/-- The name of a theme. -/
def name : Theme → String
  | light => "light"
  | dark => "dark"

/-- The theme of a name. -/
def ofName? (s : String) : Option Theme :=
  all.find? (·.name = s)

/-- The theme of a name, which has to exist. -/
def ofName (s : String) : Except UnknownName Theme :=
  UnknownName.orElse "theme" s (ofName? s)

end Theme

end ChartCompiler
