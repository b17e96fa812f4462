import ChartCompiler.Config.Kind

/-!
Chart configurations: a kind of chart, the fields bound to its channels, and
display settings. Every part is optional, so that partial configurations can be
laid over one another. A channel that holds the empty text is not bound.
-/

namespace ChartCompiler

/-- What each channel holds. -/
structure Bindings where
  x : Option String := none
  y : Option String := none
  y2 : Option String := none
  color : Option String := none
  size : Option String := none
  group : Option String := none
  trellis : Option String := none
  geo : Option String := none
  note : Option String := none
deriving DecidableEq, Repr

namespace Bindings

/-- What a channel holds. -/
def get (b : Bindings) : Channel → Option String
  | .x => b.x
  | .y => b.y
  | .y2 => b.y2
  | .color => b.color
  | .size => b.size
  | .group => b.group
  | .trellis => b.trellis
  | .geo => b.geo
  | .note => b.note

/-- The bindings given channel by channel. -/
def ofFn (f : Channel → Option String) : Bindings where
  x := f .x
  y := f .y
  y2 := f .y2
  color := f .color
  size := f .size
  group := f .group
  trellis := f .trellis
  geo := f .geo
  note := f .note

@[simp] theorem get_ofFn (f : Channel → Option String) (channel : Channel) :
    (ofFn f).get channel = f channel := by
  cases channel <;> rfl

/-- Bindings are determined by what their channels hold. -/
theorem ext_get {a b : Bindings} (h : ∀ channel, a.get channel = b.get channel) : a = b := by
  cases a
  cases b
  have hx := h .x
  have hy := h .y
  have hy2 := h .y2
  have hcolor := h .color
  have hsize := h .size
  have hgroup := h .group
  have htrellis := h .trellis
  have hgeo := h .geo
  have hnote := h .note
  simp only [get] at *
  subst hx hy hy2 hcolor hsize hgroup htrellis hgeo hnote
  rfl

/-- The bindings with one channel changed. -/
def set (b : Bindings) (channel : Channel) (value : Option String) : Bindings :=
  ofFn fun c => if c = channel then value else b.get c

@[simp] theorem get_set (b : Bindings) (channel other : Channel) (value : Option String) :
    (b.set channel value).get other = if other = channel then value else b.get other :=
  get_ofFn _ other

end Bindings

/-- A chart configuration. -/
structure ChartConfig where
  kind : Option ChartKind := none
  bindings : Bindings := {}
  hideLegend : Option Bool := none
  showTitle : Option Bool := none
  scaleX : Option ScaleType := none
  scaleY : Option ScaleType := none
deriving DecidableEq, Repr

namespace ChartConfig

instance : Inhabited ChartConfig := ⟨{}⟩

/-- The configuration that only names a kind. -/
def ofKind (kind : ChartKind) : ChartConfig :=
  { kind := some kind }

/-- The field bound to a channel. -/
def field (config : ChartConfig) (channel : Channel) : Option String :=
  (config.bindings.get channel).filter (· ≠ "")

/-- The configuration with one channel changed. -/
def setField (config : ChartConfig) (channel : Channel) (value : Option String) : ChartConfig :=
  { config with bindings := config.bindings.set channel value }

/-- The bound channels with their fields, in channel order. -/
def boundFields (config : ChartConfig) : List (Channel × String) :=
  Channel.all.filterMap fun channel => (config.field channel).map fun f => (channel, f)

/-- Some channel is bound to the field. -/
def isBound (config : ChartConfig) (field : String) : Bool :=
  config.boundFields.any (·.2 = field)

/-- The legend or the title is spoken of. -/
def hasDisplayFlags (config : ChartConfig) : Bool :=
  config.hideLegend.isSome || config.showTitle.isSome

/-- Nothing is set. -/
def isEmpty (config : ChartConfig) : Bool :=
  config.kind.isNone && config.boundFields.isEmpty && !config.hasDisplayFlags &&
    config.scaleX.isNone && config.scaleY.isNone

/-- A configuration needs a bound field or a display flag. -/
def isValid (config : ChartConfig) : Bool :=
  !config.boundFields.isEmpty || config.hasDisplayFlags

/-- Every channel that the kind draws from is bound. -/
def hasRequiredBindings (config : ChartConfig) : Bool :=
  let bound (channel : Channel) : Bool := (config.field channel).isSome
  match config.kind with
  | none => false
  | some kind =>
    match kind with
    | .bar | .barh | .line | .area | .point | .donut => bound .x && bound .y
    | .heatmap => bound .x && bound .y && bound .color
    | .treemap => bound .x && (bound .size || bound .y)
    | .boxplot => bound .y
    | .beeswarm => bound .x
    | .headline => !config.boundFields.isEmpty
    | .usaMap => bound .geo || (bound .x && bound .y)

/-- The legend is to be hidden. -/
def hidesLegend (config : ChartConfig) : Bool :=
  config.hideLegend.getD false

/-- The title is to be shown. -/
def showsTitle (config : ChartConfig) : Bool :=
  config.showTitle.getD false

/-- Lays `top` over the configuration: what `top` sets wins, and a channel that
`top` does not bind keeps what it holds. -/
def overlay (config top : ChartConfig) : ChartConfig where
  kind := top.kind.or config.kind
  bindings := .ofFn fun channel => (top.field channel).or (config.bindings.get channel)
  hideLegend := top.hideLegend.or config.hideLegend
  showTitle := top.showTitle.or config.showTitle
  scaleX := top.scaleX.or config.scaleX
  scaleY := top.scaleY.or config.scaleY

end ChartConfig

end ChartCompiler
