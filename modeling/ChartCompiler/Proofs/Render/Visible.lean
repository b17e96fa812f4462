import Mathlib
import ChartCompiler.Proofs.Render.ViewLife

/-!
What is visible, and what the renderer remembers of it. The mounted view, the text
of its document, the number of the swap and the coordinator's configuration are
kept in different places and change at different events; `Renderer.Coherent` says
that they always describe the one request that started the visible operation.
-/

namespace ChartCompiler

/-! ## Requests that start operations -/

/-- The operation that an event starts, with its request. -/
def Renderer.started (r : Renderer) (event : RenderEvent) : List (Nat × RenderRequest) :=
  match event with
  | .request _ request =>
    if r.counter < (r.step event).1.counter then [((r.step event).1.counter, request)] else []
  | _ => []

/-- The operations that a run starts, with their requests. -/
def Renderer.starts (r : Renderer) (events : List RenderEvent) : List (Nat × RenderRequest) :=
  r.gather Renderer.started events

theorem Renderer.started_cases (r : Renderer) (event : RenderEvent) :
    (r.started event = [] ∧ (r.step event).1.counter = r.counter) ∨
    ∃ requester request, event = .request requester request ∧
      r.started event = [(r.counter + 1, request)] ∧
      (r.step event).1.counter = r.counter + 1 := by
  rcases (r.transition_step event).counter_eq with same | ⟨requester, request, rfl⟩
  · refine .inl ⟨?_, same⟩
    cases event with
    | request requester request => exact if_neg (by omega)
    | _ => rfl
  · unfold Renderer.started
    rcases r.step_request requester request with ⟨-, -, next⟩ | ⟨-, next⟩
    · rw [next]
      exact .inl ⟨if_neg (Nat.lt_irrefl _), rfl⟩
    · rw [next]
      exact .inr ⟨requester, request, rfl, if_pos (Nat.lt_succ_self _), rfl⟩

/-- Operations are numbered upwards as they start. -/
theorem Renderer.Ordered.starts_pairwise {r : Renderer} (ord : r.Ordered)
    (events : List RenderEvent) :
    (r.starts events).Pairwise fun earlier later => earlier.1 < later.1 := by
  refine (gather_pairwise Prod.fst Renderer.counter (fun {r} _ event => ?_) ord events).1
  rcases r.started_cases event with ⟨none, same⟩ | ⟨requester, request, -, only, counted⟩
  · exact .inl ⟨none, same⟩
  · exact .inr ⟨(r.counter + 1, request), only, Nat.lt_succ_self _, counted⟩

theorem Renderer.Ordered.eq_of_mem_starts {r : Renderer} (ord : r.Ordered)
    {events : List RenderEvent} {id : Nat} {request other : RenderRequest}
    (left : (id, request) ∈ r.starts events) (right : (id, other) ∈ r.starts events) :
    request = other := by
  have numbers : ((r.starts events).map Prod.fst).Nodup := by
    have increasing := (ord.starts_pairwise events).map Prod.fst fun _ _ below => below
    exact increasing.imp Nat.ne_of_lt
  have same := List.inj_on_of_nodup_map numbers left right rfl
  exact congrArg Prod.snd same

/-! ## Coherence -/

/-- What is remembered belongs together. Every operation under way was started by
its request, whose document the engine was asked to draw into the operation's
slot. If a view is visible, the same holds of the operation that mounted it, and
the text and the configuration that are remembered are those of its request;
otherwise no text is remembered. -/
structure Renderer.Coherent (r : Renderer) (starts : List (Nat × RenderRequest))
    (seen : List RenderEffect) : Prop where
  requested : ∀ op ∈ r.operations, (op.id, op.request) ∈ starts ∧
    .embed op.id op.target op.request.document op.request.theme ∈ seen
  shown : ∀ m, r.slots.get r.active = some m → ∃ request : RenderRequest,
    (m.generation, request) ∈ starts ∧
    .embed m.generation r.active request.document request.theme ∈ seen ∧
    r.fingerprint = some request.document.compact ∧ r.coordinator.config = request.config
  blank : r.slots.get r.active = none → r.fingerprint = none

namespace Renderer.Coherent

variable {r : Renderer} {starts : List (Nat × RenderRequest)} {seen : List RenderEffect}

theorem fresh (coordinator : Coordinator) : (Renderer.fresh coordinator).Coherent [] [] where
  requested := by
    intro op underWay
    cases underWay
  shown := by
    intro m mounted
    cases mounted
  blank := fun _ => rfl

theorem requested_step (coh : r.Coherent starts seen) (event : RenderEvent) :
    ∀ op ∈ (r.step event).1.operations, (op.id, op.request) ∈ starts ++ r.started event ∧
      .embed op.id op.target op.request.document op.request.theme ∈
        seen ++ (r.step event).2 := by
  intro op underWay
  rcases (r.transition_step event).origin underWay with
    ⟨old, wasUnderWay, continues⟩ | ⟨new, counted, ⟨requester, rfl⟩, effects⟩
  · obtain ⟨listed, embedded⟩ := coh.requested old wasUnderWay
    rw [continues.id, continues.request, continues.target]
    exact ⟨List.mem_append_left _ listed, List.mem_append_left _ embedded⟩
  · constructor
    · refine List.mem_append_right _ ?_
      rcases r.started_cases (.request requester op.request) with
        ⟨-, same⟩ | ⟨_, request, isRequest, only, -⟩
      · rw [counted] at same
        omega
      · rw [only, new, (RenderEvent.request.inj isRequest).2]
        exact List.mem_singleton_self _
    · refine List.mem_append_right _ ?_
      rw [effects]
      exact List.mem_singleton_self _

theorem step (coh : r.Coherent starts seen) (ord : r.Ordered) (event : RenderEvent) :
    (r.step event).1.Coherent (starts ++ r.started event) (seen ++ (r.step event).2) := by
  refine ⟨coh.requested_step event, ?_, ?_⟩
  · intro m mounted
    rcases (r.transition_step event).display_cases with
      ⟨display, -⟩ | ⟨op, view, attached, underWay, live, -, -, next⟩ |
        ⟨retirement, -, -, rfl, next⟩ | ⟨-, next⟩
    · obtain ⟨active, slots, -, text, config⟩ := Renderer.fields_of_display display
      rw [slots, active] at mounted
      obtain ⟨request, listed, embedded, shown⟩ := coh.shown m mounted
      refine ⟨request, List.mem_append_left _ listed, ?_, ?_⟩
      · rw [active]
        exact List.mem_append_left _ embedded
      · rw [text, config]
        exact shown
    · obtain ⟨listed, embedded⟩ := coh.requested op underWay
      rw [next] at mounted ⊢
      change (r.slots.set op.target _).get op.target = some m at mounted
      rw [Slots.get_set_self] at mounted
      cases mounted
      exact ⟨op.request, List.mem_append_left _ listed, List.mem_append_left _ embedded, rfl, rfl⟩
    · have stays := ord.get_active_step (.expire retirement.swap) nofun
      rw [next] at mounted stays ⊢
      obtain ⟨request, listed, embedded, shown⟩ := coh.shown m (stays.symm.trans mounted)
      exact ⟨request, List.mem_append_left _ listed, List.mem_append_left _ embedded, shown⟩
    · rw [next, r.get_slots_cleanUp] at mounted
      cases mounted
  · intro empty
    rcases (r.transition_step event).display_cases with
      ⟨display, -⟩ | ⟨op, view, attached, underWay, live, -, -, next⟩ |
        ⟨retirement, -, -, rfl, next⟩ | ⟨-, next⟩
    · obtain ⟨active, slots, -, text, -⟩ := Renderer.fields_of_display display
      rw [slots, active] at empty
      rw [text]
      exact coh.blank empty
    · rw [next] at empty
      change (r.slots.set op.target _).get op.target = none at empty
      rw [Slots.get_set_self] at empty
      cases empty
    · have stays := ord.get_active_step (.expire retirement.swap) nofun
      rw [next] at empty stays ⊢
      exact coh.blank (stays.symm.trans empty)
    · rw [next]
      rfl

theorem run (coordinator : Coordinator) (events : List RenderEvent) :
    let start := Renderer.fresh coordinator
    (start.run events).1.Coherent (start.starts events) (start.run events).2 := by
  intro start
  have both := Renderer.run_induction
    (P := fun events r seen => r.Ordered ∧ r = (start.run events).1 ∧
      r.Coherent (start.starts events) seen)
    ⟨.fresh coordinator, rfl, .fresh coordinator⟩
    (fun events r seen event inv => by
      obtain ⟨ord, rfl, coh⟩ := inv
      refine ⟨ord.transition (Renderer.transition_step _ event), ?_, ?_⟩
      · rw [Renderer.run_concat]
      · unfold Renderer.starts
        rw [Renderer.gather_concat]
        exact coh.step ord event)
    events
  exact both.2.2

end Renderer.Coherent

/-! ## What an unchanged answer means -/

theorem Renderer.answered_unchanged_iff (r : Renderer) (requester : Requester)
    (request : RenderRequest) :
    .answered requester .unchanged ∈ (r.step (.request requester request)).2 ↔
      request.force = false ∧ r.fingerprint = some request.document.compact := by
  rcases r.step_request requester request with ⟨unforced, same, next⟩ | ⟨other, next⟩
  · simp [next, unforced, same]
  · simpa [next] using other

theorem Renderer.step_of_unchanged {r : Renderer} {requester : Requester}
    {request : RenderRequest}
    (answered : .answered requester .unchanged ∈ (r.step (.request requester request)).2) :
    r.step (.request requester request) = (r, [.answered requester .unchanged]) := by
  rcases r.step_request requester request with ⟨-, -, next⟩ | ⟨-, next⟩
  · exact next
  · rw [next] at answered
    simp at answered

theorem Renderer.exists_exported_iff (r : Renderer) :
    (∃ view, r.exported = .ok view) ↔ ∃ m, r.slots.get r.active = some m := by
  cases mounted : r.slots.get r.active with
  | none => simp [Renderer.exported, Renderer.visible?, mounted]
  | some m => simp [Renderer.exported, Renderer.visible?, mounted]

/-- **What is visible is one request's.** After every run, a text is remembered if
and only if a view is visible, and so can be exported. The visible view was then
made for the operation that swapped last, which exactly one request has started:
the engine was asked to draw this request's document into the visible slot, the
text that is remembered is the document's, and the coordinator has the request's
configuration. Hence a request is answered `unchanged` exactly when it is not
forced and the document of the visible view has the same text, and nothing at
all changes then. -/
theorem Renderer.visible_view_coherent (coordinator : Coordinator) (events : List RenderEvent) :
    let start := Renderer.fresh coordinator
    let r := (start.run events).1
    let seen := (start.run events).2
    (r.fingerprint.isSome ↔ ∃ m, r.slots.get r.active = some m) ∧
    (r.fingerprint.isSome ↔ ∃ view, r.exported = .ok view) ∧
    (∀ m, r.slots.get r.active = some m → ∃ request : RenderRequest,
      (∀ other, (m.generation, other) ∈ start.starts events ↔ other = request) ∧
      .embed m.generation r.active request.document request.theme ∈ seen ∧
      .created m.generation m.view ∈ seen ∧
      r.fingerprint = some request.document.compact ∧
      m.generation = r.lastSwap ∧
      r.coordinator.config = request.config) ∧
    (∀ requester request,
      let asked := r.step (.request requester request)
      (.answered requester .unchanged ∈ asked.2 ↔ request.force = false ∧
        ∃ m shown, r.slots.get r.active = some m ∧
          (m.generation, shown) ∈ start.starts events ∧
          shown.document.compact = request.document.compact) ∧
      (.answered requester .unchanged ∈ asked.2 →
        asked = (r, [.answered requester .unchanged]))) := by
  intro start r seen
  have timed : r.Timed := .run coordinator events
  have led : Ledger r.held r.views seen := .run coordinator events
  have coh : r.Coherent (start.starts events) seen := .run coordinator events
  have onlyStart : ∀ {id request other}, (id, request) ∈ start.starts events →
      (id, other) ∈ start.starts events → request = other :=
    (Renderer.Ordered.fresh coordinator).eq_of_mem_starts
  have text : r.fingerprint.isSome ↔ ∃ m, r.slots.get r.active = some m := by
    cases mounted : r.slots.get r.active with
    | none => simp [coh.blank mounted]
    | some m =>
      obtain ⟨request, -, -, remembered, -⟩ := coh.shown m mounted
      simp [remembered]
  refine ⟨text, text.trans r.exists_exported_iff.symm, ?_, fun requester request => ⟨?_, ?_⟩⟩
  · intro m mounted
    obtain ⟨request, listed, embedded, remembered, config⟩ := coh.shown m mounted
    have created : .created m.generation m.view ∈ seen := by
      have story := (led.story_held m (r.mem_held_of_slot mounted)).2
      have opened : .created m.generation m.view ∈ m.opening := List.mem_cons_self
      rw [← story] at opened
      exact List.mem_of_mem_filter opened
    refine ⟨request, fun other => ⟨fun also => onlyStart also listed, ?_⟩, embedded, created,
      remembered, timed.visible m mounted, config⟩
    rintro rfl
    exact listed
  · rw [r.answered_unchanged_iff]
    constructor
    · rintro ⟨unforced, same⟩
      obtain ⟨m, mounted⟩ := text.mp (by rw [same]; rfl)
      obtain ⟨shown, listed, -, remembered, -⟩ := coh.shown m mounted
      exact ⟨unforced, m, shown, mounted, listed, Option.some.inj (remembered.symm.trans same)⟩
    · rintro ⟨unforced, m, shown, mounted, listed, same⟩
      obtain ⟨request, alsoListed, -, remembered, -⟩ := coh.shown m mounted
      rw [onlyStart alsoListed listed, same] at remembered
      exact ⟨unforced, remembered⟩
  · exact r.step_of_unchanged

/-- A request for the document that is visible is answered `unchanged`, and the
renderer stays as it is, whatever configuration and theme the request asks for. -/
theorem Renderer.repeated_request_unchanged :
    let start := Renderer.fresh { config := {}, schema := .empty }
    let r := (start.run [.request (.task 0) { document := .bool true }, .embedded 1 true,
      .resume 1, .attach 1, .commit 1]).1
    r.slots.get r.active = some ⟨0, [⟨.event "click", 0⟩], 1⟩ ∧ r.fingerprint = some "true" ∧
      ∀ config theme,
        (r.step (.request (.task 1) { document := .bool true, config, theme })).1 = r := by
  intro start r
  have coherent := Renderer.visible_view_coherent { config := {}, schema := .empty }
    [.request (.task 0) { document := .bool true }, .embedded 1 true, .resume 1, .attach 1,
      .commit 1]
  refine ⟨by decide, by decide, fun config theme => ?_⟩
  have unchanged := coherent.2.2.2 (.task 1) { document := .bool true, config, theme }
  have stays := congrArg Prod.fst (unchanged.2 (.head _))
  exact stays

end ChartCompiler
