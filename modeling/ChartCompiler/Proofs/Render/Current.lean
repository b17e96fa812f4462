import Mathlib
import ChartCompiler.Proofs.Render.Transition

/-!
The current operation. However requests, answers of the engine, cleanups and
timers are interleaved, at most one operation under way is not aborted: the
newest one, which is the one that the renderer calls current and which draws into
the hidden slot. `Renderer.Ordered` is the invariant that carries this, together
with the bounds on the numbers of operations that make a mounted view older than
every operation that may still be mounted.
-/

namespace ChartCompiler

/-! ## The invariant -/

/-- How the operations under way stand to the current one. -/
structure Renderer.Ordered (r : Renderer) : Prop where
  nodup : (r.operations.map RenderOperation.id).Nodup
  le_counter : ∀ op ∈ r.operations, op.id ≤ r.counter
  current_of_live : ∀ op ∈ r.operations, op.aborted = false → r.current = some op.id
  live_of_current : ∀ id, r.current = some id → id = r.counter ∧ r.lastSwap < id ∧
    ∃ op ∈ r.operations, op.id = id ∧ op.aborted = false ∧ op.target = r.active.other
  lastSwap_le : r.lastSwap ≤ r.counter
  generation_le : ∀ m ∈ r.slots.toList, m.generation ≤ r.lastSwap

theorem Renderer.Ordered.fresh (coordinator : Coordinator) :
    (Renderer.fresh coordinator).Ordered where
  nodup := List.nodup_nil
  le_counter := by simp [Renderer.fresh]
  current_of_live := by simp [Renderer.fresh]
  live_of_current := by simp [Renderer.fresh]
  lastSwap_le := Nat.le_refl 0
  generation_le := by simp [Renderer.fresh, Slots.toList]

theorem Renderer.Ordered.eq_of_id {r : Renderer} (ord : r.Ordered) {a b : RenderOperation}
    (left : a ∈ r.operations) (right : b ∈ r.operations) (same : a.id = b.id) : a = b :=
  List.inj_on_of_nodup_map ord.nodup left right same

/-- An operation that is not aborted is the newest, and draws into the hidden slot. -/
theorem Renderer.Ordered.of_live {r : Renderer} (ord : r.Ordered) {op : RenderOperation}
    (underWay : op ∈ r.operations) (live : op.aborted = false) :
    r.current = some op.id ∧ op.id = r.counter ∧ r.lastSwap < op.id ∧
      op.target = r.active.other := by
  have current := ord.current_of_live op underWay live
  obtain ⟨newest, above, other, otherUnderWay, same, -, target⟩ :=
    ord.live_of_current op.id current
  rw [ord.eq_of_id otherUnderWay underWay same] at target
  exact ⟨current, newest, above, target⟩

/-! ## Slots -/

theorem Slots.mem_toList {slots : Slots} {m : MountedView} :
    m ∈ slots.toList ↔ ∃ slot, slots.get slot = some m := by
  simp only [Slots.toList, List.mem_append, Option.mem_toList]
  constructor
  · rintro (here | there)
    · exact ⟨.a, here⟩
    · exact ⟨.b, there⟩
  · rintro ⟨slot | slot, mounted⟩
    · exact .inl mounted
    · exact .inr mounted

theorem Slot.eq_or_eq_other (slot other : Slot) : other = slot ∨ other = slot.other := by
  cases slot <;> cases other <;> simp [Slot.other]

theorem Slots.mem_toList_set {slots : Slots} {slot : Slot} {mounted : Option MountedView}
    {m : MountedView} (member : m ∈ (slots.set slot mounted).toList) :
    mounted = some m ∨ slots.get slot.other = some m := by
  obtain ⟨place, held⟩ := Slots.mem_toList.mp member
  rcases slot.eq_or_eq_other place with rfl | rfl
  · exact .inl (by simpa using held)
  · exact .inr (by simpa using held)

theorem Renderer.mem_slots_of_retire {r : Renderer} {retirement : Retirement} {m : MountedView}
    (mounted : m ∈ (r.retire retirement).1.slots.toList) : m ∈ r.slots.toList := by
  simp only [Renderer.retire] at mounted
  split at mounted
  · rcases Slots.mem_toList_set mounted with gone | stays
    · cases gone
    · exact Slots.mem_toList.mpr ⟨_, stays⟩
  · exact mounted

/-! ## Preservation -/

section Preservation

variable {r : Renderer}

/-- Emptying slots and changing what the invariant does not speak of keeps it. -/
theorem Renderer.Ordered.frame {r' : Renderer} (ord : r.Ordered)
    (operations : r'.operations = r.operations) (current : r'.current = r.current)
    (counter : r'.counter = r.counter) (lastSwap : r'.lastSwap = r.lastSwap)
    (active : r'.active = r.active) (slots : ∀ m ∈ r'.slots.toList, m ∈ r.slots.toList) :
    r'.Ordered where
  nodup := by rw [operations]; exact ord.nodup
  le_counter := by rw [operations, counter]; exact ord.le_counter
  current_of_live := by rw [operations, current]; exact ord.current_of_live
  live_of_current := by
    rw [operations, current, counter, lastSwap, active]; exact ord.live_of_current
  lastSwap_le := by rw [lastSwap, counter]; exact ord.lastSwap_le
  generation_le := by
    intro m mounted
    rw [lastSwap]
    exact ord.generation_le m (slots m mounted)

theorem Renderer.mem_setPhase {id : Nat} {phase : RenderPhase} {op : RenderOperation} :
    op ∈ (r.setPhase id phase).operations ↔
      ∃ old ∈ r.operations, op = if old.id = id then { old with phase } else old := by
  simp only [Renderer.setPhase, List.mem_map, eq_comm]

theorem Renderer.Ordered.setPhase (ord : r.Ordered) (id : Nat) (phase : RenderPhase) :
    (r.setPhase id phase).Ordered where
  nodup := by
    have sameIds : (r.setPhase id phase).operations.map RenderOperation.id =
        r.operations.map RenderOperation.id := by
      simp only [Renderer.setPhase, List.map_map]
      refine List.map_congr_left fun op _ => ?_
      dsimp only [Function.comp_apply]
      split <;> rfl
    rw [sameIds]
    exact ord.nodup
  le_counter := by
    intro op moved
    obtain ⟨old, underWay, rfl⟩ := r.mem_setPhase.mp moved
    have bound := ord.le_counter old underWay
    split <;> exact bound
  current_of_live := by
    intro op moved live
    obtain ⟨old, underWay, rfl⟩ := r.mem_setPhase.mp moved
    have current := ord.current_of_live old underWay
    split at live
    next same => rw [if_pos same]; exact current live
    next other => rw [if_neg other]; exact current live
  live_of_current := by
    intro current isCurrent
    obtain ⟨newest, above, old, underWay, same, live, target⟩ :=
      ord.live_of_current current isCurrent
    refine ⟨newest, above, _, r.mem_setPhase.mpr ⟨old, underWay, rfl⟩, ?_⟩
    split <;> exact ⟨same, live, target⟩
  lastSwap_le := ord.lastSwap_le
  generation_le := ord.generation_le

theorem Renderer.Ordered.finish (ord : r.Ordered) (op : RenderOperation)
    (outcome : RenderOutcome) : (r.finish op outcome).1.Ordered where
  nodup := ord.nodup.sublist (List.filter_sublist.map _)
  le_counter := fun other stays => ord.le_counter other (List.mem_of_mem_filter stays)
  current_of_live := by
    intro other stays live
    obtain ⟨underWay, differs⟩ := List.mem_filter.mp stays
    have current := ord.current_of_live other underWay live
    simp only [decide_eq_true_eq] at differs
    simp only [Renderer.finish, current, Option.some.injEq, differs, if_false]
  live_of_current := by
    intro id isCurrent
    simp only [Renderer.finish] at isCurrent
    split at isCurrent
    · cases isCurrent
    next differs =>
      obtain ⟨newest, above, other, underWay, same, live, target⟩ :=
        ord.live_of_current id isCurrent
      refine ⟨newest, above, other, List.mem_filter.mpr ⟨underWay, ?_⟩, same, live, target⟩
      rw [isCurrent, ← same, Option.some.injEq] at differs
      simpa using differs
  lastSwap_le := ord.lastSwap_le
  generation_le := ord.generation_le

/-- Once the current operation is aborted, every operation is. -/
theorem Renderer.Ordered.aborted_of_mem_abortCurrent (ord : r.Ordered) {op : RenderOperation}
    (member : op ∈ r.abortCurrent.operations) : op.aborted = true := by
  obtain ⟨old, underWay, rfl⟩ := List.mem_map.mp member
  split
  · rfl
  next differs =>
    by_contra live
    exact differs (ord.current_of_live old underWay (Bool.eq_false_iff.mpr live))

theorem Renderer.map_id_abortCurrent (r : Renderer) :
    r.abortCurrent.operations.map RenderOperation.id = r.operations.map RenderOperation.id := by
  simp only [Renderer.abortCurrent, List.map_map]
  refine List.map_congr_left fun op _ => ?_
  dsimp only [Function.comp_apply]
  split <;> rfl

theorem Renderer.Ordered.le_counter_abortCurrent (ord : r.Ordered) {op : RenderOperation}
    (member : op ∈ r.abortCurrent.operations) : op.id ≤ r.counter := by
  have listed := List.mem_map_of_mem (f := RenderOperation.id) member
  rw [r.map_id_abortCurrent] at listed
  obtain ⟨old, underWay, same⟩ := List.mem_map.mp listed
  rw [← same]
  exact ord.le_counter old underWay

theorem Renderer.Ordered.start (ord : r.Ordered) (requester : Requester)
    (request : RenderRequest) : (r.start requester request).Ordered where
  nodup := by
    simp only [Renderer.start, List.map_append, r.map_id_abortCurrent, List.map_cons, List.map_nil]
    refine ord.nodup.append (List.nodup_singleton _) ?_
    intro id older new
    obtain ⟨op, underWay, rfl⟩ := List.mem_map.mp older
    have bound := ord.le_counter op underWay
    rw [List.mem_singleton.mp new] at bound
    omega
  le_counter := by
    intro op member
    rcases List.mem_append.mp member with older | new
    · exact Nat.le_succ_of_le (ord.le_counter_abortCurrent older)
    · rw [List.mem_singleton.mp new]
      exact Nat.le_refl _
  current_of_live := by
    intro op member live
    rcases List.mem_append.mp member with older | new
    · rw [ord.aborted_of_mem_abortCurrent older] at live
      cases live
    · rw [List.mem_singleton.mp new]
      rfl
  live_of_current := by
    intro id isCurrent
    obtain rfl : r.counter + 1 = id := Option.some.inj isCurrent
    exact ⟨rfl, Nat.lt_succ_of_le ord.lastSwap_le, _,
      List.mem_append_right _ (List.mem_singleton_self _), rfl, rfl, rfl⟩
  lastSwap_le := Nat.le_succ_of_le ord.lastSwap_le
  generation_le := ord.generation_le

theorem Renderer.Ordered.cleanUp (ord : r.Ordered) : r.cleanUp.1.Ordered where
  nodup := by
    change (r.abortCurrent.operations.map RenderOperation.id).Nodup
    rw [r.map_id_abortCurrent]
    exact ord.nodup
  le_counter := fun _ member => ord.le_counter_abortCurrent member
  current_of_live := by
    intro op member live
    rw [ord.aborted_of_mem_abortCurrent member] at live
    cases live
  live_of_current := nofun
  lastSwap_le := ord.lastSwap_le
  generation_le := by simp [Renderer.cleanUp, Slots.toList]

/-- After a swap no operation is current, and the mounted view is the newest. -/
theorem Renderer.Ordered.swap (ord : r.Ordered) {op : RenderOperation}
    (underWay : op ∈ r.operations) (live : op.aborted = false) (view : Nat)
    (attached : List AttachedListener) : (r.swap op ⟨view, attached, op.id⟩).1.Ordered := by
  obtain ⟨current, newest, above, -⟩ := ord.of_live underWay live
  have none : (r.swap op ⟨view, attached, op.id⟩).1.current = none := by
    simp only [Renderer.swap, Renderer.finish, current, if_true]
  refine ⟨ord.nodup.sublist (List.filter_sublist.map _),
    fun other stays => ord.le_counter other (List.mem_of_mem_filter stays), ?_, ?_, ?_, ?_⟩
  · intro other stays otherLive
    obtain ⟨otherUnderWay, differs⟩ := List.mem_filter.mp stays
    have same := (ord.of_live otherUnderWay otherLive).1
    rw [current, Option.some.injEq] at same
    simp [same] at differs
  · intro id isCurrent
    rw [none] at isCurrent
    cases isCurrent
  · exact Nat.le_of_eq newest
  · intro m mounted
    change m ∈ (r.slots.set op.target (some ⟨view, attached, op.id⟩)).toList at mounted
    change m.generation ≤ op.id
    rcases Slots.mem_toList_set mounted with new | older
    · cases new
      exact Nat.le_refl _
    · have bound := ord.generation_le m (Slots.mem_toList.mpr ⟨_, older⟩)
      omega

theorem Renderer.Ordered.retire (ord : r.Ordered) (retirement : Retirement) :
    (r.retire retirement).1.Ordered :=
  ord.frame rfl rfl rfl rfl rfl fun _ mounted => r.mem_slots_of_retire mounted

/-- Every transition keeps the order of the operations. -/
theorem Renderer.Ordered.transition {event : RenderEvent} {next : Renderer.Result}
    (ord : r.Ordered) (t : r.Transition event next) : next.1.Ordered := by
  cases t with
  | idle _ => exact ord
  | advance milliseconds => exact ord.frame rfl rfl rfl rfl rfl fun _ mounted => mounted
  | report coordinator calls _ _ => exact ord.frame rfl rfl rfl rfl rfl fun _ mounted => mounted
  | unchanged requester request _ _ => exact ord
  | start requester request _ => exact ord.start requester request
  | @fail op _ _ => exact ord.finish op .failed
  | @create op _ _ _ =>
    have counted : { r with views := r.views + 1 }.Ordered :=
      ord.frame rfl rfl rfl rfl rfl fun _ mounted => mounted
    exact counted.setPhase op.id _
  | @createAborted op _ _ _ =>
    have counted : { r with views := r.views + 1 }.Ordered :=
      ord.frame rfl rfl rfl rfl rfl fun _ mounted => mounted
    exact counted.finish op .aborted
  | @resume op view _ _ _ => exact ord.setPhase op.id _
  | @attach op view attached listener missing _ _ => exact ord.setPhase op.id _
  | @discard _ op view attached _ _ _ _ => exact ord.finish op .aborted
  | @swap op view attached underWay live _ => exact ord.swap underWay live view attached
  | @retire retirement _ _ => exact ord.retire retirement
  | cleanUp => exact ord.cleanUp

end Preservation

/-! ## Where an operation comes from -/

/-- An operation is a later state of another: only its phase has changed, and it
may have been aborted since. -/
structure RenderOperation.Continues (old op : RenderOperation) : Prop where
  id : op.id = old.id
  target : op.target = old.target
  request : op.request = old.request
  aborted : old.aborted = true → op.aborted = true

theorem RenderOperation.Continues.refl (op : RenderOperation) : op.Continues op :=
  ⟨rfl, rfl, rfl, fun aborted => aborted⟩

theorem Renderer.continues_of_mem_abortCurrent {r : Renderer} {op : RenderOperation}
    (member : op ∈ r.abortCurrent.operations) : ∃ old ∈ r.operations, old.Continues op := by
  obtain ⟨old, underWay, rfl⟩ := List.mem_map.mp member
  refine ⟨old, underWay, ?_⟩
  split
  · exact ⟨rfl, rfl, rfl, fun _ => rfl⟩
  · exact .refl old

theorem Renderer.continues_of_mem_setPhase {r : Renderer} {id : Nat} {phase : RenderPhase}
    {op : RenderOperation} (member : op ∈ (r.setPhase id phase).operations) :
    ∃ old ∈ r.operations, old.Continues op := by
  obtain ⟨old, underWay, rfl⟩ := r.mem_setPhase.mp member
  refine ⟨old, underWay, ?_⟩
  split
  · exact ⟨rfl, rfl, rfl, fun aborted => aborted⟩
  · exact .refl old

/-- An operation under way after a transition was under way before it, or the
transition is the request that starts it. -/
theorem Renderer.Transition.origin {r : Renderer} {event : RenderEvent} {next : Renderer.Result}
    (t : r.Transition event next) {op : RenderOperation} (underWay : op ∈ next.1.operations) :
    (∃ old ∈ r.operations, old.Continues op) ∨
      (op.id = r.counter + 1 ∧ next.1.counter = r.counter + 1 ∧
        (∃ requester, event = .request requester op.request) ∧
        next.2 = [.embed op.id op.target op.request.document op.request.theme]) := by
  have ended : ∀ {id : Nat}, op ∈ r.operations.filter (fun other => other.id ≠ id) →
      ∃ old ∈ r.operations, old.Continues op :=
    fun stays => ⟨op, List.mem_of_mem_filter stays, .refl op⟩
  cases t with
  | idle _ | advance _ | report _ _ _ _ | unchanged _ _ _ _ | retire _ _ =>
    exact .inl ⟨op, underWay, .refl op⟩
  | start requester request _ =>
    rcases List.mem_append.mp underWay with older | new
    · exact .inl (r.continues_of_mem_abortCurrent older)
    · rw [List.mem_singleton.mp new]
      exact .inr ⟨rfl, rfl, ⟨requester, rfl⟩, rfl⟩
  | fail _ _ | createAborted _ _ _ | discard _ _ _ _ | swap _ _ _ => exact .inl (ended underWay)
  | create _ _ _ => exact .inl (Renderer.continues_of_mem_setPhase underWay)
  | resume _ _ _ | attach _ _ => exact .inl (r.continues_of_mem_setPhase underWay)
  | cleanUp => exact .inl (r.continues_of_mem_abortCurrent underWay)

theorem Renderer.Transition.counter_le {r : Renderer} {event : RenderEvent}
    {next : Renderer.Result} (t : r.Transition event next) : r.counter ≤ next.1.counter := by
  cases t with
  | start requester request _ => exact Nat.le_succ _
  | _ => exact Nat.le_refl _

/-- Only a request starts an operation. -/
theorem Renderer.Transition.counter_eq {r : Renderer} {event : RenderEvent}
    {next : Renderer.Result} (t : r.Transition event next) :
    next.1.counter = r.counter ∨ ∃ requester request, event = .request requester request := by
  cases t with
  | start requester request _ => exact .inr ⟨requester, request, rfl⟩
  | _ => exact .inl rfl

theorem Renderer.Ordered.run (coordinator : Coordinator) (events : List RenderEvent) :
    ((Renderer.fresh coordinator).run events).1.Ordered :=
  Renderer.run_invariant Renderer.Ordered.transition (.fresh coordinator) events

/-- Where an event brings at most one thing, numbered above a mark that it then
raises to this number, a run brings things numbered upwards. -/
theorem Renderer.Ordered.gather_pairwise {α : Type} {brings : Renderer → RenderEvent → List α}
    (number : α → Nat) (mark : Renderer → Nat)
    (each : ∀ {r : Renderer}, r.Ordered → ∀ event,
      (brings r event = [] ∧ mark (r.step event).1 = mark r) ∨
      ∃ x, brings r event = [x] ∧ mark r < number x ∧ mark (r.step event).1 = number x)
    {r : Renderer} (ord : r.Ordered) (events : List RenderEvent) :
    (r.gather brings events).Pairwise (fun x y => number x < number y) ∧
      ∀ x ∈ r.gather brings events, mark r < number x := by
  induction events generalizing r with
  | nil => exact ⟨.nil, nofun⟩
  | cons event events ih =>
    obtain ⟨increasing, above⟩ := ih (ord.transition (r.transition_step event))
    unfold Renderer.gather
    rcases each ord event with ⟨none, same⟩ | ⟨x, only, higher, raised⟩
    · rw [none, List.nil_append]
      exact ⟨increasing, fun y later => same ▸ above y later⟩
    · rw [raised] at above
      rw [only, List.singleton_append]
      refine ⟨List.pairwise_cons.mpr ⟨above, increasing⟩, fun y member => ?_⟩
      rcases List.mem_cons.mp member with rfl | later
      · exact higher
      · exact Nat.lt_trans higher (above y later)

end ChartCompiler
