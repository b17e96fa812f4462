import Mathlib
import ChartCompiler.Proofs.Compile.Drawing
import ChartCompiler.Proofs.Config.Resolution

/-!
Documents and bound fields. A channel that holds the empty text is not bound, and nothing
that is drawn can tell it from a channel that holds nothing: `ChartConfig.clearEmpty` empties
such channels, the result draws like the configuration it came from (`drawsLike_clearEmpty`),
and requests for them compile alike (`compile_clearEmpty`).
-/

namespace ChartCompiler

variable {schema : Schema} {data : Dataset}

namespace ChartConfig

/-- The configuration with nothing in the channels that hold the empty text. -/
def clearEmpty (config : ChartConfig) : ChartConfig :=
  { config with bindings := .ofFn config.field }

theorem get_clearEmpty (config : ChartConfig) (channel : Channel) :
    config.clearEmpty.bindings.get channel = config.field channel :=
  Bindings.get_ofFn _ channel

@[simp] theorem field_clearEmpty (config : ChartConfig) :
    config.clearEmpty.field = config.field := by
  funext channel
  rw [field, get_clearEmpty, field, Option.filter_filter]
  simp only [Bool.and_self]

@[simp] theorem boundFields_clearEmpty (config : ChartConfig) :
    config.clearEmpty.boundFields = config.boundFields := by
  rw [boundFields, boundFields, field_clearEmpty]

@[simp] theorem isBound_clearEmpty (config : ChartConfig) :
    config.clearEmpty.isBound = config.isBound := by
  funext name
  rw [isBound, isBound, boundFields_clearEmpty]

@[simp] theorem hasRequiredBindings_clearEmpty (config : ChartConfig) :
    config.clearEmpty.hasRequiredBindings = config.hasRequiredBindings := by
  unfold hasRequiredBindings
  rw [field_clearEmpty, boundFields_clearEmpty]
  rfl

theorem drawsLike_clearEmpty (config : ChartConfig) : config.clearEmpty.DrawsLike config where
  field channel _ := congrFun config.field_clearEmpty channel
  hideLegend := rfl
  showTitle := rfl
  scaleX := rfl
  scaleY := rfl

theorem setting?_clearEmpty (config : ChartConfig) (m : ConfigMember) :
    config.clearEmpty.setting? m = (config.setting? m).filter Setting.counts := by
  cases m with
  | channel channel =>
    rw [setting?, setting?, get_clearEmpty, Option.filter_map]
    rfl
  | _ => exact (filter_map_of_forall Setting.counts (fun _ => rfl) _).symm

/-- Over nothing, a configuration loses its empty texts. -/
theorem empty_overlay (top : ChartConfig) : ({} : ChartConfig).overlay top = top.clearEmpty := by
  refine ext_setting? Option.or_none fun m => ?_
  rw [setting?_overlay, setting?_empty, Option.or_none, setting?_clearEmpty]

theorem overlay_clearEmpty (base top : ChartConfig) :
    base.overlay top.clearEmpty = base.overlay top := by
  unfold overlay
  rw [field_clearEmpty]
  rfl

theorem clearDangling_clearEmpty (config : ChartConfig) (schema : Schema) :
    config.clearEmpty.clearDangling schema = (config.clearDangling schema).clearEmpty := by
  have same : (config.clearEmpty.clearDangling schema).bindings =
      (config.clearDangling schema).clearEmpty.bindings := by
    refine Bindings.ext_get fun channel => ?_
    rw [get_clearDangling, dangles, field_clearEmpty, get_clearEmpty, get_clearEmpty,
      field_clearDangling]
    cases config.field channel with
    | none => rfl
    | some name => cases column : schema.contains name <;> simp [column, Option.filter_some]
  exact congrArg (fun bindings => { config with bindings }) same

theorem completed_clearEmpty (config : ChartConfig) (data : Dataset) (schema : Schema) :
    config.clearEmpty.completed data schema = config.completed data schema := by
  rw [completed, clearDangling_clearEmpty, overlay_clearEmpty]
  rfl

end ChartConfig

/-! ## Compiling -/

namespace ChartRequest

/-- Configurations that resolve alike compile alike. -/
theorem compile_congr (request : ChartRequest) {config : ChartConfig}
    (alike : resolveConfig config request.data request.schema =
      resolveConfig request.config request.data request.schema) :
    { request with config }.compile = request.compile := by
  unfold compile
  rw [alike]
  rfl

theorem build_context_clearEmpty (request : ChartRequest) (config : ChartConfig)
    (kind : ChartKind) : Chart.build kind (request.context config.clearEmpty kind) =
      Chart.build kind (request.context config kind) := by
  have retained : request.selection.retainBound config.clearEmpty =
      request.selection.retainBound config := by
    rw [Selection.retainBound, ChartConfig.isBound_clearEmpty]
    rfl
  exact request.build_context_congr config.drawsLike_clearEmpty retained kind

theorem document_clearEmpty (request : ChartRequest) (config : ChartConfig) (kind : ChartKind)
    (chart : Fragment) :
    request.document config.clearEmpty kind chart = request.document config kind chart := by
  rw [document, document, ChartConfig.field_clearEmpty]

/-- **The empty text binds nothing.** A request compiles as if nothing stood in the channels
that hold the empty text. -/
theorem compile_clearEmpty (request : ChartRequest) :
    { request with config := request.config.clearEmpty }.compile = request.compile := by
  let emptied : ChartRequest := { request with config := request.config.clearEmpty }
  have cleared : emptied.config.clearDangling request.schema =
      (request.config.clearDangling request.schema).clearEmpty :=
    request.config.clearDangling_clearEmpty request.schema
  by_cases required : (request.config.clearDangling request.schema).hasRequiredBindings
  · -- both are complete as they stand, and resolve to configurations that differ
    have resolved : resolveConfig request.config request.data request.schema =
        .ok (request.config.clearDangling request.schema) := resolveConfig_of_required required
    have emptiedResolved : resolveConfig emptied.config request.data request.schema =
        .ok (request.config.clearDangling request.schema).clearEmpty := by
      rw [← cleared]
      refine resolveConfig_of_required ?_
      rw [cleared, ChartConfig.hasRequiredBindings_clearEmpty]
      exact required
    obtain ⟨kind, isKind, -⟩ := ChartConfig.hasRequiredBindings_iff.mp required
    have drawn := compile_of_resolved resolved isKind
    have emptiedDrawn : emptied.compile = _ := compile_of_resolved emptiedResolved isKind
    rw [drawn, emptiedDrawn]
    change (Chart.build kind (request.context _ kind)).map
      (fun chart => (Fragment.compose [request.document _ kind chart, _]).toJson) = _
    simp only [build_context_clearEmpty, document_clearEmpty]
    rfl
  · -- both are completed to the same configuration
    refine request.compile_congr ?_
    have stillIncomplete : ¬ (emptied.config.clearDangling request.schema).hasRequiredBindings := by
      rw [cleared, ChartConfig.hasRequiredBindings_clearEmpty]
      exact required
    rw [resolveConfig_of_incomplete required, resolveConfig_of_incomplete stillIncomplete,
      ChartConfig.completed_clearEmpty]

end ChartRequest

end ChartCompiler
