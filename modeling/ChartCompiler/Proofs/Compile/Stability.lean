import Mathlib
import ChartCompiler.Config.Controller
import ChartCompiler.Proofs.Compile.BoundFields

/-!
Compiling what was resolved before. A configuration and what it resolves to compile to the
same document, because resolving once more changes nothing. A controller that starts with
nothing holds the inferred defaults without their empty texts (`config_start_none`), and
these compile like the empty configuration that they complete.
-/

namespace ChartCompiler

variable {schema : Schema} {data : Dataset}

/-! ## Starting with nothing -/

theorem ChartConfig.completed_empty (data : Dataset) (schema : Schema) :
    ({} : ChartConfig).completed data schema = defaultConfig data schema none := by
  have cleared : ({} : ChartConfig).clearDangling schema = {} := clearDangling_of_fits rfl
  rw [completed, cleared, overlay_empty]

/-- The defaults resolve as the empty configuration. -/
theorem resolveConfig_defaultConfig (data : Dataset) (schema : Schema) :
    resolveConfig (defaultConfig data schema none) data schema =
      resolveConfig {} data schema := by
  rw [← ChartConfig.completed_empty]
  exact resolveConfig_completed Bool.false_ne_true

theorem ConfigController.config_start_none (data : Dataset) (schema : Schema) :
    (({} : ConfigController).start none data schema).1.config =
      (defaultConfig data schema none).clearEmpty :=
  ChartConfig.empty_overlay (defaultConfig data schema none)

/-! ## The same document -/

/-- **Resolving is stable.** A resolved configuration resolves to itself, and compiles to the
document of the configuration it came from. What a fresh controller starts with when it is
given nothing compiles to the document of the empty configuration. -/
theorem compile_stable (request : ChartRequest) :
    (∀ resolved, resolveConfig request.config request.data request.schema = .ok resolved →
      resolveConfig resolved request.data request.schema = .ok resolved ∧
        { request with config := resolved }.compile = request.compile) ∧
    (let controller := (({} : ConfigController).start none request.data request.schema).1
     { request with config := controller.config }.compile =
      { request with config := {} }.compile) := by
  constructor
  · intro resolved isResolved
    have again := resolveConfig_of_resolved isResolved
    exact ⟨again, request.compile_congr (again.trans isResolved.symm)⟩
  · intro controller
    let defaults : ChartRequest :=
      { request with config := defaultConfig request.data request.schema none }
    calc { request with config := controller.config }.compile
        = { defaults with config := defaults.config.clearEmpty }.compile := by
          rw [← ConfigController.config_start_none]
      _ = defaults.compile := defaults.compile_clearEmpty
      _ = { request with config := {} }.compile :=
          ChartRequest.compile_congr { request with config := {} }
            (resolveConfig_defaultConfig request.data request.schema)

/-- A column may have the empty name, which is bound by default but counts as unbound: the
configuration a controller starts with is not the one that is resolved, and compiles like
it. -/
theorem compile_stable_nameless_colour :
    let schema : Schema :=
      ⟨[{ name := "state", type := .string }, { name := "sales", type := .money },
        { name := "", type := .string }], by decide⟩
    let request : ChartRequest :=
      { schema, data := .empty, config := { bindings := { x := some "gone" } } }
    let resolved : ChartConfig :=
      { kind := some .bar
        bindings := { x := some "state", y := some "sales", color := some "" } }
    let started := (({} : ConfigController).start none .empty schema).1.config
    resolveConfig request.config .empty schema = .ok resolved ∧
      resolveConfig resolved .empty schema = .ok resolved ∧
      { request with config := resolved }.compile = request.compile ∧
      started ≠ resolved ∧
      { request with config := started }.compile = { request with config := {} }.compile := by
  intro schema request resolved started
  have isResolved : resolveConfig request.config .empty schema = .ok resolved := by decide
  have stable := compile_stable request
  obtain ⟨again, alike⟩ := stable.1 resolved isResolved
  exact ⟨isResolved, again, alike, by decide, stable.2⟩

end ChartCompiler
