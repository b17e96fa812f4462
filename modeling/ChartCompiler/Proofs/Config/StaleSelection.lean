import Mathlib
import ChartCompiler.Proofs.Config.Session

/-!
Stale selections. A selection is meant to name bound fields only, and every operation that
changes the configuration drops the fields that are bound no longer, except one: starting
over adopts another configuration and leaves the selection as it is. Validating does not
mend that as long as the configuration itself fits. `stale_iff_started` says that this is
the only way in which the selection of a controller goes stale, and how long it stays so.
-/

namespace ChartCompiler

/-- No record is empty, and every field that a record names is bound. -/
def Selection.IsBoundIn (selection : Selection) (config : ChartConfig) : Prop :=
  ∀ record ∈ selection.records, record ≠ [] ∧ ∀ entry ∈ record, config.isBound entry.1

theorem Selection.isBoundIn_empty (config : ChartConfig) : Selection.empty.IsBoundIn config :=
  nofun

theorem Selection.isBoundIn_retainBound (selection : Selection) (config : ChartConfig) :
    (selection.retainBound config).IsBoundIn config := by
  intro record kept
  obtain ⟨inside, nonempty⟩ := List.mem_filter.mp kept
  obtain ⟨whole, -, rfl⟩ := List.mem_map.mp inside
  refine ⟨by simpa using nonempty, fun entry named => ?_⟩
  exact (List.mem_filter.mp named).2

namespace ConfigController

/-- The selection names bound fields only. -/
def IsCurrent (c : ConfigController) : Prop :=
  c.selection.IsBoundIn c.config

theorem isCurrent_of_retained {c : ConfigController} {selection : Selection}
    (retained : c.selection = selection.retainBound c.config) : c.IsCurrent := by
  rw [IsCurrent, retained]
  exact selection.isBoundIn_retainBound c.config

/-- An operation leaves a current selection, unless it starts over, or finds nothing to
correct and leaves everything as it is. -/
theorem Transition.isCurrent_or {c : ConfigController} {operation : Operation} {next : Reported}
    (transition : c.Transition operation next) :
    next.1.IsCurrent ∨
      (∃ initial data schema, operation = .start initial data schema) ∨
      ∃ data schema, operation = .validate data schema ∧ c.config.fits schema ∧ next.1 = c := by
  cases transition with
  | start initial data schema => exact .inr (.inl ⟨initial, data, schema, rfl⟩)
  | edit _ retained => exact .inl (isCurrent_of_retained retained)
  | select selection => exact .inl (isCurrent_of_retained rfl)
  | accept data schema fits => exact .inr (.inr ⟨data, schema, rfl, fits, rfl⟩)
  | fallBack _ _ _ _ _ retained => exact .inl (isCurrent_of_retained retained)

/-- Starting over is current only by chance: the selection is the one from before. -/
theorem isCurrent_start_iff (c : ConfigController) (initial : Option ChartConfig) (data : Dataset)
    (schema : Schema) : (c.start initial data schema).1.IsCurrent ↔
      c.selection.IsBoundIn (c.start initial data schema).1.config := by
  have kept : (c.start initial data schema).1.selection = c.selection :=
    selection_load _ false data schema
  rw [IsCurrent, kept]

/-! ## Stale since a start -/

/-- The operations check a configuration and find that it fits. -/
def Passes (config : ChartConfig) (checks : List Operation) : Prop :=
  ∀ check ∈ checks, ∃ data schema, check = .validate data schema ∧ config.fits schema

theorem passes_nil (config : ChartConfig) : Passes config [] :=
  fun _ inside => absurd inside List.not_mem_nil

theorem Passes.concat {config : ChartConfig} {checks : List Operation} {data : Dataset}
    {schema : Schema} (passes : Passes config checks) (fits : config.fits schema) :
    Passes config (checks ++ [.validate data schema]) := by
  intro check inside
  rcases List.mem_append.mp inside with earlier | last
  · exact passes check earlier
  · exact ⟨data, schema, List.mem_singleton.mp last, fits⟩

theorem run_of_passes {c : ConfigController} {checks : List Operation}
    (passes : Passes c.config checks) : (c.run checks).1 = c := by
  induction checks using List.reverseRecOn with
  | nil => rfl
  | append_singleton checks check ih =>
    have unchanged := ih fun earlier inside => passes earlier (List.mem_append_left _ inside)
    obtain ⟨data, schema, rfl, fits⟩ := passes check (by simp)
    rw [run_concat, unchanged, step, validate, if_pos fits]

/-- Checks that pass leave a controller as it was started over. -/
theorem run_start_of_passes {c : ConfigController} (before : List Operation)
    (initial : Option ChartConfig) (data : Dataset) (schema : Schema) {checks : List Operation}
    (passes : Passes ((c.run before).1.start initial data schema).1.config checks) :
    (c.run (before ++ .start initial data schema :: checks)).1 =
      ((c.run before).1.start initial data schema).1 := by
  have asOne : before ++ .start initial data schema :: checks =
      (before ++ [.start initial data schema]) ++ checks := by simp
  rw [asOne, run_append_fst, run_concat]
  exact run_of_passes passes

/-- **Only starting over makes a selection stale.** The selection of a session that begins
with a new controller names unbound fields, or has empty records, if and only if it did not
go with the configuration that the controller was last started over with, and nothing was
done since but checks that found that configuration fitting. -/
theorem stale_iff_started (operations : List Operation) :
    ¬ (({} : ConfigController).run operations).1.IsCurrent ↔
      ∃ before initial data schema checks,
        operations = before ++ .start initial data schema :: checks ∧
        let c := (({} : ConfigController).run before).1
        let started := (c.start initial data schema).1
        Passes started.config checks ∧ ¬ c.selection.IsBoundIn started.config := by
  constructor
  · intro stale
    induction operations using List.reverseRecOn with
    | nil => exact absurd (Selection.isBoundIn_empty _) stale
    | append_singleton operations operation ih =>
      rw [run_concat] at stale
      have transition := (({} : ConfigController).run operations).1.transition_step operation
      rcases transition.isCurrent_or with
        current | ⟨initial, data, schema, rfl⟩ | ⟨data, schema, rfl, fits, unchanged⟩
      · exact absurd current stale
      · exact ⟨operations, initial, data, schema, [], rfl, passes_nil _,
          (isCurrent_start_iff _ initial data schema).not.mp stale⟩
      · rw [unchanged] at stale
        obtain ⟨before, initial, startData, startSchema, checks, rfl, passes, unbound⟩ := ih stale
        rw [run_start_of_passes before initial startData startSchema passes] at fits
        exact ⟨before, initial, startData, startSchema, checks ++ [.validate data schema],
          by simp, passes.concat fits, unbound⟩
  · rintro ⟨before, initial, data, schema, checks, rfl, passes, unbound⟩
    rw [run_start_of_passes before initial data schema passes]
    exact (isCurrent_start_iff _ initial data schema).not.mpr unbound

/-- A selection can go stale: a region is picked, and the controller is started over with a
schema that has no such column. -/
theorem not_forall_isCurrent :
    ¬ ∀ operations : List Operation, (({} : ConfigController).run operations).1.IsCurrent := by
  intro current
  let sales : Schema :=
    ⟨[{ name := "region", type := .string }, { name := "revenue", type := .money }], by decide⟩
  let costs : Schema :=
    ⟨[{ name := "city", type := .string }, { name := "cost", type := .money }], by decide⟩
  have stale := current
    [.start none .empty sales, .select ⟨[[("region", .string "West")]]⟩, .start none .empty costs]
  have kept : [("region", Json.string "West")] ∈ (({} : ConfigController).run
      [.start none .empty sales, .select ⟨[[("region", .string "West")]]⟩,
        .start none .empty costs]).1.selection.records := by decide
  have bound := (stale _ kept).2 _ (List.mem_singleton_self _)
  exact absurd bound (by decide)

end ConfigController

end ChartCompiler
