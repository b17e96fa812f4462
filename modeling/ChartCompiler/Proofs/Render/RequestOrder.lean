import Mathlib
import ChartCompiler.Proofs.Render.Swap

/-!
Requests in their order. A request that starts an operation keeps every earlier
one from becoming visible, however the new operation ends. A request for the
document that is visible already starts no operation and touches nothing, not
even an operation that is under way for another document: that one still becomes
visible, after the request that came later.
`Renderer.earlier_swaps_iff_unchanged` says that this is the only way in which an
operation can overtake a later request.
-/

namespace ChartCompiler

/-! ## An operation that is not aborted can swap -/

namespace Renderer.Ordered

variable {r : Renderer}

theorem moved_mem_setPhase {op : RenderOperation} (underWay : op ∈ r.operations)
    (phase : RenderPhase) : { op with phase } ∈ (r.setPhase op.id phase).operations :=
  r.mem_setPhase.mpr ⟨op, underWay, (if_pos rfl).symm⟩

theorem exists_swaps_of_attaching (ord : r.Ordered) {op : RenderOperation} {view : Nat}
    {attached : List AttachedListener} {missing : List Listener} (underWay : op ∈ r.operations)
    (live : op.aborted = false) (phase : op.phase = .attaching view attached missing) :
    ∃ later, op.id ∈ r.swaps later := by
  induction missing generalizing r op attached with
  | nil =>
    refine ⟨[.commit op.id], List.mem_append_left _ ?_⟩
    exact ord.mem_swapped_iff.mpr ⟨rfl, op, underWay, rfl, live, view, attached, phase⟩
  | cons listener missing ih =>
    have next : r.step (.attach op.id) = r.attach op view attached listener missing := by
      rw [ord.step_eq underWay (.attach op.id) rfl]
      simp only [Renderer.stepOperation, phase]
    have ordNext := ord.transition (r.transition_step (.attach op.id))
    rw [next] at ordNext
    obtain ⟨later, swaps⟩ := ih ordNext (moved_mem_setPhase underWay _) live rfl
    refine ⟨.attach op.id :: later, List.mem_append_right _ ?_⟩
    rw [next]
    exact swaps

theorem exists_swaps_of_embedded (ord : r.Ordered) {op : RenderOperation} {view : Nat}
    (underWay : op ∈ r.operations) (live : op.aborted = false) (phase : op.phase = .embedded view) :
    ∃ later, op.id ∈ r.swaps later := by
  have next : r.step (.resume op.id) = (r.setPhase op.id (.attaching view []
      (listenerPlan op.request.config op.request.mobile)), []) := by
    rw [ord.step_eq underWay (.resume op.id) rfl]
    simp only [Renderer.stepOperation, phase, Renderer.resume, live, Bool.false_eq_true, if_false]
  have ordNext := ord.transition (r.transition_step (.resume op.id))
  rw [next] at ordNext
  obtain ⟨later, swaps⟩ :=
    ordNext.exists_swaps_of_attaching (moved_mem_setPhase underWay _) live rfl
  refine ⟨.resume op.id :: later, List.mem_append_right _ ?_⟩
  rw [next]
  exact swaps

/-- From every phase an operation that is not aborted can still become visible. -/
theorem exists_swaps_of_live (ord : r.Ordered) {op : RenderOperation}
    (underWay : op ∈ r.operations) (live : op.aborted = false) :
    ∃ later, op.id ∈ r.swaps later := by
  cases phase : op.phase with
  | embedding =>
    have next : r.step (.embedded op.id true) =
        ({ r with views := r.views + 1 }.setPhase op.id (.embedded r.views),
          [.created op.id r.views]) := by
      rw [ord.step_eq underWay (.embedded op.id true) rfl]
      simp only [Renderer.stepOperation, phase, Renderer.embedded, live, Bool.false_eq_true,
        if_false, if_true]
    have ordNext := ord.transition (r.transition_step (.embedded op.id true))
    rw [next] at ordNext
    have underWayNext :=
      moved_mem_setPhase (r := { r with views := r.views + 1 }) underWay (.embedded r.views)
    obtain ⟨later, swaps⟩ := ordNext.exists_swaps_of_embedded underWayNext live rfl
    refine ⟨.embedded op.id true :: later, List.mem_append_right _ ?_⟩
    rw [next]
    exact swaps
  | embedded view => exact ord.exists_swaps_of_embedded underWay live phase
  | attaching view attached missing => exact ord.exists_swaps_of_attaching underWay live phase

theorem current_or_spent (ord : r.Ordered) {id : Nat} (earlier : id ≤ r.counter) :
    r.current = some id ∨ r.Spent id := by
  by_cases current : r.current = some id
  · exact .inl current
  · refine .inr ⟨earlier, fun op underWay same => ?_⟩
    by_contra live
    rw [Bool.not_eq_true] at live
    exact current (same ▸ ord.current_of_live op underWay live)

end Renderer.Ordered

/-! ## Which operation overtakes a request -/

/-- **Only an unchanged request is overtaken.** An operation that an earlier
request started can become visible after a later request if and only if the
later one is answered `unchanged` and the operation is the current one. -/
theorem Renderer.earlier_swaps_iff_unchanged (coordinator : Coordinator)
    (events : List RenderEvent) (requester : Requester) (request : RenderRequest) (id : Nat) :
    let r := ((Renderer.fresh coordinator).run events).1
    let asked := r.step (.request requester request)
    (id ≤ r.counter ∧ ∃ later, id ∈ asked.1.swaps later) ↔
      (asked.2 = [.answered requester .unchanged] ∧ r.current = some id) := by
  intro r asked
  have ord : r.Ordered := .run coordinator events
  have ordAsked : asked.1.Ordered := ord.transition (r.transition_step _)
  rcases r.step_request requester request with ⟨-, -, unchanged⟩ | ⟨-, started⟩
  · rw [show asked = _ from unchanged]
    constructor
    · rintro ⟨earlier, later, swaps⟩
      rcases ord.current_or_spent earlier with current | spent
      · exact ⟨rfl, current⟩
      · exact absurd swaps (spent.notMem_swaps ord later)
    · rintro ⟨-, current⟩
      obtain ⟨newest, -, op, underWay, rfl, live, -⟩ := ord.live_of_current id current
      exact ⟨Nat.le_of_eq newest, ord.exists_swaps_of_live underWay live⟩
  · have counted : r.counter < asked.1.counter := by
      rw [show asked = _ from started]
      exact Nat.lt_succ_self _
    constructor
    · rintro ⟨earlier, later, swaps⟩
      have spent : asked.1.Spent id := ord.spent_of_superseded (.inr counted) earlier
      exact absurd swaps (spent.notMem_swaps ordAsked later)
    · rintro ⟨unchanged, -⟩
      rw [show asked = _ from started] at unchanged
      cases unchanged

/-- An operation of an earlier request can become visible after a later request:
the second document is asked for while the first is visible, then the first is
asked for again, and the second still swaps in. -/
theorem Renderer.not_forall_swaps_newer :
    ¬ ∀ (coordinator : Coordinator) (events : List RenderEvent) (requester : Requester)
        (request : RenderRequest) (later : List RenderEvent),
      let r := ((Renderer.fresh coordinator).run events).1
      ∀ id ∈ (r.step (.request requester request)).1.swaps later, r.counter < id := by
  intro newer
  have second := newer { config := {}, schema := .empty }
    [.request (.task 0) { document := .bool true }, .embedded 1 true, .resume 1, .attach 1,
      .commit 1, .request (.task 1) { document := .bool false }]
    (.task 2) { document := .bool true } [.embedded 2 true, .resume 2, .attach 2, .commit 2]
    2 (by decide)
  exact absurd second (by decide)

end ChartCompiler
