import Mathlib
import ChartCompiler.Proofs.Render.Visible

/-!
Failures of the engine. An operation whose document cannot be drawn is answered and ends, and
nothing else happens (`Renderer.Ordered.step_failed`): what is on display stays as it is, and so
do the retirements to come and the other operations under way, among them a newer one that has
become the current one in the meantime. The failed document is not remembered either, so asking
for it again is only in vain while a view of the same text is visible.
-/

namespace ChartCompiler

namespace Renderer.Ordered

variable {r : Renderer}

/-- An engine that fails ends the operation, be it current or aborted. -/
theorem step_failed (ord : r.Ordered) {op : RenderOperation} (underWay : op ∈ r.operations)
    (embedding : op.phase = .embedding) :
    r.step (.embedded op.id false) = r.finish op .failed := by
  rw [ord.step_eq underWay (.embedded op.id false) rfl]
  simp only [Renderer.stepOperation, embedding, Renderer.embedded, Bool.false_eq_true, if_false]

theorem mem_operations_finish (ord : r.Ordered) {op other : RenderOperation}
    (underWay : op ∈ r.operations) (outcome : RenderOutcome) :
    other ∈ (r.finish op outcome).1.operations ↔ other ∈ r.operations ∧ other ≠ op := by
  change other ∈ r.operations.filter _ ↔ _
  rw [List.mem_filter, decide_eq_true_eq]
  refine and_congr_right fun otherUnderWay => not_congr ?_
  constructor
  · exact ord.eq_of_id otherUnderWay underWay
  · exact congrArg RenderOperation.id

/-- An operation that is not the current one can only have made way for a newer one. -/
theorem lt_of_current (ord : r.Ordered) {op : RenderOperation} (underWay : op ∈ r.operations)
    {id : Nat} (current : r.current = some id) (other : id ≠ op.id) : op.id < id := by
  have bound := ord.le_counter op underWay
  have newest := (ord.live_of_current id current).1
  omega

end Renderer.Ordered

theorem Renderer.current_finish (r : Renderer) (op : RenderOperation) (outcome : RenderOutcome) :
    (r.finish op outcome).1.current = if r.current = some op.id then none else r.current :=
  rfl

/-- A request is answered `unchanged` for the sake of a visible view, the operation of which was
started for a document of the same text. -/
theorem Renderer.Coherent.exists_shown_of_unchanged {r : Renderer}
    {starts : List (Nat × RenderRequest)} {seen : List RenderEffect} (coh : r.Coherent starts seen)
    {requester : Requester} {request : RenderRequest}
    (answered : .answered requester .unchanged ∈ (r.step (.request requester request)).2) :
    ∃ (m : MountedView) (shown : RenderRequest), r.slots.get r.active = some m ∧
      (m.generation, shown) ∈ starts ∧
      .embed m.generation r.active shown.document shown.theme ∈ seen ∧
      shown.document.compact = request.document.compact := by
  have remembered := ((r.answered_unchanged_iff requester request).mp answered).2
  cases mounted : r.slots.get r.active with
  | none =>
    rw [coh.blank mounted] at remembered
    cases remembered
  | some m =>
    obtain ⟨shown, listed, embedded, text, -⟩ := coh.shown m mounted
    rw [remembered, Option.some.injEq] at text
    exact ⟨m, shown, rfl, listed, embedded, text.symm⟩

/-- **Failures are contained.** Wherever the engine fails an operation under way, the operation
is answered `failed` and ends; nothing else is seen of it, so that no view is finalized. Both
slots with their views and listeners, the flag of the transition, the last swap, the text that is
remembered and the coordinator's configuration stay, as do the retirements to come and all other
operations. No operation is current afterwards if it was this one, and a newer one stays current.
Later on a request for the failed document that is not forced is answered `unchanged` only if the
view that is visible then was drawn from a document of that text. -/
theorem Renderer.failures_contained (coordinator : Coordinator) (events : List RenderEvent)
    (op : RenderOperation)
    (underWay : op ∈ ((Renderer.fresh coordinator).run events).1.operations)
    (embedding : op.phase = .embedding) :
    let start := Renderer.fresh coordinator
    let r := (start.run events).1
    let failure : RenderEvent := .embedded op.id false
    let failed := r.step failure
    failed.2 = [.answered op.requester .failed] ∧
    failed.1.display = r.display ∧
    failed.1.retirements = r.retirements ∧
    (∀ other, other ∈ failed.1.operations ↔ other ∈ r.operations ∧ other ≠ op) ∧
    (r.current = none ∨ r.current = some op.id → failed.1.current = none) ∧
    (∀ id, r.current = some id → id ≠ op.id → op.id < id ∧ failed.1.current = some id) ∧
    ∀ later requester request,
      let reached := start.run (events ++ failure :: later)
      let s := reached.1
      request.force = false → request.document.compact = op.request.document.compact →
      .answered requester .unchanged ∈ (s.step (.request requester request)).2 →
        ∃ (m : MountedView) (shown : RenderRequest), s.slots.get s.active = some m ∧
          .created m.generation m.view ∈ reached.2 ∧
          .embed m.generation s.active shown.document shown.theme ∈ reached.2 ∧
          shown.document.compact = op.request.document.compact := by
  intro start r failure failed
  have ord : r.Ordered := .run coordinator events
  have ends : failed = r.finish op .failed := ord.step_failed underWay embedding
  refine ⟨by rw [ends]; rfl, by rw [ends]; rfl, by rw [ends]; rfl, ?_, ?_, ?_, ?_⟩
  · intro other
    rw [ends]
    exact ord.mem_operations_finish underWay .failed
  · intro own
    rw [ends, r.current_finish]
    rcases own with none | own
    · rw [none, if_neg nofun]
    · exact if_pos own
  · intro id current other
    refine ⟨ord.lt_of_current underWay current other, ?_⟩
    rw [ends, r.current_finish, current, if_neg (by simpa using other)]
  · intro later requester request reached s _ sameText answered
    have coh : s.Coherent (start.starts _) reached.2 := .run coordinator _
    have led : Ledger s.held s.views reached.2 := .run coordinator _
    obtain ⟨m, shown, mounted, -, embedded, text⟩ := coh.exists_shown_of_unchanged answered
    refine ⟨m, shown, mounted, ?_, embedded, text.trans sameText⟩
    exact led.created_mem (s.mem_held_of_slot mounted)

/-- Two requests for one document, the first of which fails after the second has overtaken it: the
second stays current and becomes visible, and only then is a third request answered
`unchanged`. -/
theorem Renderer.failures_contained_overtaken :
    let start := Renderer.fresh { config := {}, schema := .empty }
    let request : RenderRequest := { document := .bool true }
    let first : RenderOperation :=
      { id := 1, target := .b, aborted := true, requester := .task 0, request }
    let events : List RenderEvent := [.request (.task 0) request, .request (.task 1) request]
    let failure : RenderEvent := .embedded 1 false
    let failed := (start.run events).1.step failure
    let reached := start.run
      (events ++ failure :: [.embedded 2 true, .resume 2, .attach 2, .commit 2])
    first ∈ (start.run events).1.operations ∧ first.phase = .embedding ∧
      failed.2 = [.answered (.task 0) .failed] ∧ failed.1.current = some 2 ∧
      .answered (.task 2) .unchanged ∈ (reached.1.step (.request (.task 2) request)).2 ∧
      ∃ (m : MountedView) (shown : RenderRequest), reached.1.slots.get reached.1.active = some m ∧
        .embed m.generation reached.1.active shown.document shown.theme ∈ reached.2 ∧
        shown.document.compact = request.document.compact := by
  intro start request first events failure failed reached
  have underWay : first ∈ (start.run events).1.operations := .head _
  have contained := Renderer.failures_contained { config := {}, schema := .empty } events first
    underWay rfl
  obtain ⟨told, -, -, -, -, newer, unchanged⟩ := contained
  have answered : .answered (.task 2) .unchanged ∈
      (reached.1.step (.request (.task 2) request)).2 := .head _
  obtain ⟨m, shown, mounted, -, embedded, text⟩ := unchanged _ (.task 2) request rfl rfl answered
  exact ⟨underWay, rfl, told, (newer 2 rfl (by decide)).2, answered, m, shown, mounted, embedded,
    text⟩

end ChartCompiler
