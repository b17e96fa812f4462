import Mathlib
import ChartCompiler.Config.Controller

/-!
Sessions: what is done to a controller, one operation after the other, each with data and a
schema of its own. `ConfigController.Transition` has one rule for each way through an
operation and says what it reports and what becomes of the selection; `transition_step`
places every operation under a rule, so what holds along every session is proved rule by
rule. The first such property is that reports never lag behind: whoever follows a controller
knows its configuration after every operation (`last_report_is_live`).
-/

namespace ChartCompiler

namespace ConfigController

/-- What can be done to a controller. -/
inductive Operation where
  | start (initial : Option ChartConfig) (data : Dataset) (schema : Schema)
  | update (partialConfig : ChartConfig) (data : Dataset) (schema : Schema)
  | clear (channel : Channel)
  | select (selection : Selection)
  | validate (data : Dataset) (schema : Schema)

/-- One operation. -/
def step (c : ConfigController) : Operation → Reported
  | .start initial data schema => c.start initial data schema
  | .update partialConfig data schema => c.update partialConfig data schema
  | .clear channel => c.clear channel
  | .select selection => (c.select selection, [])
  | .validate data schema => (c.validate data schema).2

/-- A session: the operations in order, and all that is reported meanwhile. -/
def run (c : ConfigController) (operations : List Operation) : Reported :=
  operations.foldl (fun (c, reported) operation =>
    let (c, now) := c.step operation
    (c, reported ++ now)) (c, [])

/-- An operation that changes the configuration and keeps the controller's start. -/
def Operation.isEdit : Operation → Bool
  | .update .. | .clear _ => true
  | _ => false

/-- What an operation can do, with one rule for each way through it. -/
inductive Transition (c : ConfigController) : Operation → Reported → Prop
  | start {next : ConfigController} (initial : Option ChartConfig) (data : Dataset)
      (schema : Schema) : next.selection = c.selection →
    c.Transition (.start initial data schema) (next, [next.config])
  | edit {operation : Operation} {next : ConfigController} : operation.isEdit = true →
    next.selection = c.selection.retainBound next.config →
    c.Transition operation (next, [next.config])
  | select (selection : Selection) :
    c.Transition (.select selection)
      ({ c with selection := selection.retainBound c.config }, [])
  /-- nothing dangles -/
  | accept (data : Dataset) (schema : Schema) : c.config.fits schema →
    c.Transition (.validate data schema) (c, [])
  /-- a fallback is found at once, or after a first one that does not fit either -/
  | fallBack {next : ConfigController} (data : Dataset) (schema : Schema)
      (tried : List ChartConfig) : ¬ c.config.fits schema → tried.length ≤ 1 →
    next.selection = c.selection.retainBound next.config →
    c.Transition (.validate data schema) (next, tried ++ [next.config])

theorem selection_load (c : ConfigController) (forceDefaults : Bool) (data : Dataset)
    (schema : Schema) : (c.load forceDefaults data schema).selection = c.selection := by
  unfold load
  split <;> rfl

theorem transition_step (c : ConfigController) (operation : Operation) :
    c.Transition operation (c.step operation) := by
  cases operation with
  | start initial data schema =>
    exact .start initial data schema (selection_load _ false data schema)
  | update partialConfig data schema => exact .edit rfl rfl
  | clear channel => exact .edit rfl rfl
  | select selection => exact .select selection
  | validate data schema =>
    simp only [step, validate]
    split
    · next fits => exact .accept data schema fits
    · next dangling =>
      split
      · refine .fallBack data schema [] dangling (Nat.zero_le 1) ?_
        simp only [retainSelection, selection_load]
      · refine .fallBack data schema [_] dangling (Nat.le_refl 1) ?_
        simp only [retainSelection, selection_load]

/-! ## Sessions -/

theorem run_concat (c : ConfigController) (operations : List Operation) (operation : Operation) :
    c.run (operations ++ [operation]) =
      (((c.run operations).1.step operation).1,
        (c.run operations).2 ++ ((c.run operations).1.step operation).2) := by
  simp only [run, List.foldl_append, List.foldl_cons, List.foldl_nil]

theorem run_append_fst (c : ConfigController) (xs ys : List Operation) :
    (c.run (xs ++ ys)).1 = ((c.run xs).1.run ys).1 := by
  induction ys using List.reverseRecOn with
  | nil => simp [run]
  | append_singleton ys operation ih => rw [← List.append_assoc, run_concat, run_concat, ih]

/-! ## Reports -/

theorem fst_validate (c : ConfigController) (data : Dataset) (schema : Schema) :
    (c.validate data schema).1 = c.config.fits schema := by
  unfold validate
  split
  · next fits => exact fits.symm
  · next dangling =>
    rw [Bool.eq_false_iff.mpr dangling]
    simp only
    split <;> rfl

/-- An operation that reports ends with the report of what it leaves, and one that does not
leaves the configuration alone. -/
theorem Transition.getLast?_reported {c : ConfigController} {operation : Operation}
    {next : Reported} (transition : c.Transition operation next) :
    next.2.getLast?.getD c.config = next.1.config := by
  cases transition with
  | start | edit | select | accept => rfl
  | fallBack => rw [List.getLast?_concat, Option.getD_some]

/-- The last report of a session is the configuration it leaves. -/
theorem getLast?_reported_run (c : ConfigController) (operations : List Operation) :
    (c.run operations).2.getLast?.getD c.config = (c.run operations).1.config := by
  induction operations using List.reverseRecOn with
  | nil => rfl
  | append_singleton operations operation ih =>
    have last := ((c.run operations).1.transition_step operation).getLast?_reported
    rw [run_concat, List.getLast?_append, Option.getD_or, ih]
    exact last

/-- How many reports an operation may make: validating makes none when it finds nothing to
correct, and one for each fallback otherwise. -/
def reportCounts (c : ConfigController) : Operation → List Nat
  | .start .. | .update .. | .clear _ => [1]
  | .select _ => [0]
  | .validate data schema => if (c.validate data schema).1 then [0] else [1, 2]

theorem Transition.length_reported {c : ConfigController} {operation : Operation}
    {next : Reported} (transition : c.Transition operation next) :
    next.2.length ∈ c.reportCounts operation := by
  cases transition with
  | start => exact List.mem_singleton_self 1
  | edit isEdit =>
    cases operation with
    | update | clear => exact List.mem_singleton_self 1
    | _ => cases isEdit
  | select => exact List.mem_singleton_self 0
  | accept data schema fits =>
    rw [reportCounts, fst_validate, if_pos fits]
    exact List.mem_singleton_self 0
  | fallBack data schema tried dangling few =>
    rw [reportCounts, fst_validate, if_neg dangling, List.length_append]
    simp only [List.length_singleton, List.mem_cons, List.not_mem_nil, or_false]
    omega

/-- **Reports never lag behind.** After every operation of every session that begins with a
new controller, the last configuration reported, or the empty one if none was, is the working
configuration; and every operation makes as many reports as are due. -/
theorem last_report_is_live (operations : List Operation) :
    let session := ({} : ConfigController).run operations
    session.2.getLast?.getD {} = session.1.config ∧
      ∀ operation, (session.1.step operation).2.length ∈ session.1.reportCounts operation := by
  intro session
  exact ⟨getLast?_reported_run {} operations,
    fun operation => (session.1.transition_step operation).length_reported⟩

end ConfigController

end ChartCompiler
