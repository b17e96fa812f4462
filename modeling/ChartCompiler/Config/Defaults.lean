import ChartCompiler.Config.Basic
import ChartCompiler.Data.Dataset

/-!
Default configurations: which kinds of chart a schema can feed, which of them
fits the data best, and which columns each kind draws from when nothing is
bound. A schema without a numeric column feeds none.
-/

namespace ChartCompiler

/-- The columns of a schema sorted into the buckets that defaults draw from. -/
structure Buckets where
  numeric : List Column
  categorical : List Column
  temporal : List Column
  geographic : List Column
  latitude : List Column
  longitude : List Column

namespace Buckets

/-- The buckets of a schema, each in schema order. -/
def of (schema : Schema) : Buckets where
  numeric := schema.bucket .numeric
  categorical := schema.bucket .categorical
  temporal := schema.bucket .temporal
  geographic := schema.bucket .geographic
  latitude := schema.bucket .latitude
  longitude := schema.bucket .longitude

/-- There is both a latitude and a longitude. -/
def hasCoordinates (b : Buckets) : Bool :=
  !b.latitude.isEmpty && !b.longitude.isEmpty

end Buckets

/-- More distinct labels than this make a bar chart lie on its side and tilt its
labels. -/
def labelCutoff : Nat := 7

/-- The rows in which distinct labels are counted. -/
def labelSample : Nat := 50

/-- The name of the first column. -/
def firstName (columns : List Column) : Option String :=
  columns.head?.map Column.name

/-- The name of the second column. -/
def secondName (columns : List Column) : Option String :=
  columns[1]?.map Column.name

/-- The name of the first column that is not taken. -/
def firstFree (columns : List Column) (taken : List String) : Option String :=
  (columns.find? fun c => !taken.contains c.name).map Column.name

/-- The kind of chart that fits, the first of: a line over time, bars for labels
(on their side when there are many), points for two quantities, a heatmap for
two labels, a map for regions or coordinates. -/
def inferKind (data : Dataset) (b : Buckets) : Option ChartKind :=
  let measured := !b.numeric.isEmpty
  if !b.temporal.isEmpty && measured then some .line
  else
    match b.categorical.head?.filter fun _ => measured with
    | some column =>
      if labelCutoff < data.uniqueCount column.name (some labelSample) then some .barh else some .bar
    | none =>
      if 2 ≤ b.numeric.length then some .point
      else if 2 ≤ b.categorical.length && measured then some .heatmap
      else if !b.geographic.isEmpty || b.hasCoordinates then some .usaMap
      else none

/-- The columns that a kind draws from when nothing is bound. -/
def defaultBindings (kind : ChartKind) (b : Buckets) : Bindings :=
  match kind with
  | .bar =>
    { x := firstName b.categorical
      y := firstName b.numeric
      color := firstFree b.categorical (firstName b.categorical).toList }
  | .barh =>
    { x := firstName b.numeric
      y := firstName b.categorical
      color := firstFree b.categorical (firstName b.categorical).toList }
  | .line | .area =>
    let x := firstName b.temporal
    let y := (firstFree b.numeric (b.temporal.map Column.name)).or (firstName b.numeric)
    { x := x
      y := y
      color := firstFree b.categorical (x.toList ++ y.toList) }
  | .point =>
    { x := firstName b.numeric
      y := secondName b.numeric
      color := firstFree b.categorical ((b.numeric.take 2).map Column.name) }
  | .heatmap =>
    { x := firstName b.categorical
      y := secondName b.categorical
      color := firstName b.numeric }
  | .usaMap =>
    if b.hasCoordinates then
      { x := firstName b.longitude
        y := firstName b.latitude
        size := firstName b.numeric
        color := secondName b.numeric }
    else
      match firstName b.geographic with
      | some geo => { geo := some geo, color := firstName b.numeric }
      | none => {}
  | .headline => { x := firstName b.numeric }
  | .boxplot =>
    { y := firstName b.numeric
      group := firstName b.categorical }
  | .donut =>
    { x := firstName b.numeric
      y := firstName b.categorical }
  | .treemap =>
    { x := firstName b.categorical
      size := firstName b.numeric }
  | .beeswarm =>
    { x := firstName b.categorical
      color := (secondName b.categorical).or (firstName b.categorical)
      size := firstName b.numeric }

/-- The default configuration of a dataset: of the given kind, or of the one
that fits. It is empty when there is nothing to measure or no kind fits. -/
def defaultConfig (data : Dataset) (schema : Schema) (kind : Option ChartKind) : ChartConfig :=
  let b := Buckets.of schema
  if b.numeric.isEmpty then {}
  else
    match kind.or (inferKind data b) with
    | some kind => { kind := some kind, bindings := defaultBindings kind b }
    | none => {}

/-- The kinds of chart that a schema can feed, in a fixed order. -/
def eligibleKinds (schema : Schema) : List ChartKind :=
  let b := Buckets.of schema
  if b.numeric.isEmpty then []
  else
    (if b.temporal.isEmpty then [] else [.line, .area]) ++
    (if b.categorical.isEmpty then [] else [.bar, .barh, .donut, .treemap]) ++
    (if 2 ≤ b.numeric.length then [.point] else []) ++
    (if 2 ≤ b.categorical.length then [.heatmap] else []) ++
    (if !b.geographic.isEmpty || b.hasCoordinates then [.usaMap] else []) ++
    (if b.categorical.isEmpty then [] else [.beeswarm]) ++
    [.headline, .boxplot]

end ChartCompiler
