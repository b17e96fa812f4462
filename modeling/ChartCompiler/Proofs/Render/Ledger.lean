import Mathlib
import ChartCompiler.Proofs.Render.Current

/-!
The ledger of views. Every view that the engine has made is held by exactly one
owner, a slot or an operation under way, or it has been given up. What can be
seen of a view tells which: a view that is held has been created and listened to,
by the listeners that its owner remembers, and a view that has been given up had
the same listeners removed again and was finalized after that.

`Ledger` says this of a list of holdings, with one lemma for each way of changing
it; `Ledger.transition` then reads every transition of a renderer as a few such
changes.
-/

namespace ChartCompiler

/-! ## Stories of views -/

/-- The effect is about a view. -/
def RenderEffect.isAbout (view : Nat) : RenderEffect → Bool
  | .created _ v | .listen v _ | .unlisten v _ | .finalize v => v = view
  | _ => false

def RenderEffect.isFinalize (view : Nat) : RenderEffect → Bool
  | .finalize v => v = view
  | _ => false

/-- What is seen of a view while it is held: its creation and its listeners. -/
def MountedView.opening (m : MountedView) : List RenderEffect :=
  .created m.generation m.view :: m.listeners.map (.listen m.view)

theorem MountedView.filter_isAbout_dispose (m : MountedView) (view : Nat) :
    m.dispose.filter (RenderEffect.isAbout view) = if m.view = view then m.dispose else [] := by
  split
  next same =>
    subst same
    rw [List.filter_eq_self]
    intro effect member
    rcases List.mem_append.mp member with unlisten | finalize
    · obtain ⟨attached, -, rfl⟩ := List.mem_map.mp unlisten
      simp [RenderEffect.isAbout]
    · rw [List.mem_singleton.mp finalize]
      simp [RenderEffect.isAbout]
  next differs =>
    rw [List.filter_eq_nil_iff]
    intro effect member
    rcases List.mem_append.mp member with unlisten | finalize
    · obtain ⟨attached, -, rfl⟩ := List.mem_map.mp unlisten
      simpa [RenderEffect.isAbout] using differs
    · rw [List.mem_singleton.mp finalize]
      simpa [RenderEffect.isAbout] using differs

theorem RenderEffect.filter_isAbout_concat {effect : RenderEffect} {about : Nat}
    (tells : ∀ view, effect.isAbout view = decide (about = view)) (seen : List RenderEffect)
    (view : Nat) : (seen ++ [effect]).filter (RenderEffect.isAbout view) =
      seen.filter (RenderEffect.isAbout view) ++ if about = view then [effect] else [] := by
  rw [List.filter_append, List.filter_singleton, tells]
  by_cases same : about = view <;> simp [same]

/-! ## The ledger -/

/-- The views made so far, which of them are held and as what, and what has been
seen of each of them. -/
structure Ledger (held : List MountedView) (views : Nat) (seen : List RenderEffect) : Prop where
  nodup : (held.map MountedView.view).Nodup
  story_held : ∀ m ∈ held, m.view < views ∧ seen.filter (RenderEffect.isAbout m.view) = m.opening
  story_gone : ∀ view, view < views → view ∉ held.map MountedView.view →
    ∃ m : MountedView, m.view = view ∧
      seen.filter (RenderEffect.isAbout view) = m.opening ++ m.dispose
  story_new : ∀ view, views ≤ view → seen.filter (RenderEffect.isAbout view) = []

namespace Ledger

variable {held held' : List MountedView} {views : Nat} {seen : List RenderEffect}

theorem empty : Ledger [] 0 [] :=
  ⟨List.nodup_nil, nofun, nofun, fun _ _ => rfl⟩

theorem perm (led : Ledger held views seen) (same : held.Perm held') :
    Ledger held' views seen where
  nodup := (same.map _).nodup_iff.mp led.nodup
  story_held := fun m member => led.story_held m (same.mem_iff.mpr member)
  story_gone := fun view made gone =>
    led.story_gone view made fun member => gone ((same.map _).mem_iff.mp member)
  story_new := led.story_new

theorem silent (led : Ledger held views seen) (effects : List RenderEffect)
    (quiet : ∀ effect ∈ effects, ∀ view, effect.isAbout view = false) :
    Ledger held views (seen ++ effects) := by
  have same : ∀ view, (seen ++ effects).filter (RenderEffect.isAbout view) =
      seen.filter (RenderEffect.isAbout view) := by
    intro view
    have none : effects.filter (RenderEffect.isAbout view) = [] :=
      List.filter_eq_nil_iff.mpr fun effect member => by simp [quiet effect member view]
    rw [List.filter_append, none, List.append_nil]
  refine ⟨led.nodup, fun m member => ?_, fun view made gone => ?_, fun view new => ?_⟩
  · rw [same]; exact led.story_held m member
  · rw [same]; exact led.story_gone view made gone
  · rw [same]; exact led.story_new view new

/-- The engine makes a view, which an operation then holds. -/
theorem create (led : Ledger held views seen) (operation : Nat) :
    Ledger (⟨views, [], operation⟩ :: held) (views + 1) (seen ++ [.created operation views]) := by
  have story := RenderEffect.filter_isAbout_concat
    (show ∀ view, (RenderEffect.created operation views).isAbout view = _ from fun _ => rfl) seen
  have older : ∀ m ∈ held, views ≠ m.view :=
    fun m member => (Nat.ne_of_lt (led.story_held m member).1).symm
  refine ⟨?_, ?_, ?_, ?_⟩
  · rw [List.map_cons, List.nodup_cons]
    refine ⟨fun member => ?_, led.nodup⟩
    obtain ⟨m, isHeld, same⟩ := List.mem_map.mp member
    exact older m isHeld same.symm
  · intro m member
    rw [story]
    rcases List.mem_cons.mp member with rfl | member
    · rw [led.story_new views (Nat.le_refl _), if_pos rfl]
      exact ⟨Nat.lt_succ_self _, rfl⟩
    · obtain ⟨made, opening⟩ := led.story_held m member
      rw [if_neg (older m member), List.append_nil]
      exact ⟨Nat.lt_succ_of_lt made, opening⟩
  · intro view made gone
    simp only [List.map_cons, List.mem_cons, not_or] at gone
    obtain ⟨m, same, closed⟩ := led.story_gone view (by omega) gone.2
    rw [story, if_neg (Ne.symm gone.1), List.append_nil]
    exact ⟨m, same, closed⟩
  · intro view new
    rw [story, led.story_new view (by omega), if_neg (by omega), List.append_nil]

/-- The owner of a view attaches a listener to it. -/
theorem listen {m : MountedView} (led : Ledger (m :: held) views seen)
    (attached : AttachedListener) :
    Ledger ({ m with listeners := m.listeners ++ [attached] } :: held) views
      (seen ++ [.listen m.view attached]) := by
  have story := RenderEffect.filter_isAbout_concat
    (show ∀ view, (RenderEffect.listen m.view attached).isAbout view = _ from fun _ => rfl) seen
  obtain ⟨made, opening⟩ := led.story_held m List.mem_cons_self
  have others : ∀ o ∈ held, m.view ≠ o.view := by
    intro o member same
    refine (List.nodup_cons.mp led.nodup).1 ?_
    rw [same]
    exact List.mem_map_of_mem member
  refine ⟨led.nodup, fun o member => ?_, fun view made gone => ?_, fun view new => ?_⟩
  · rw [story]
    rcases List.mem_cons.mp member with rfl | member
    · rw [if_pos rfl, opening]
      exact ⟨made, by simp [MountedView.opening]⟩
    · rw [if_neg (others o member), List.append_nil]
      exact led.story_held o (List.mem_cons_of_mem _ member)
  · have differs : m.view ≠ view := fun same => gone (same ▸ List.mem_cons_self)
    rw [story, if_neg differs, List.append_nil]
    exact led.story_gone view made gone
  · rw [story, led.story_new view new, if_neg (by omega), List.append_nil]

/-- The owner of a view gives it up. -/
theorem dispose {m : MountedView} (led : Ledger (m :: held) views seen) :
    Ledger held views (seen ++ m.dispose) := by
  obtain ⟨made, opening⟩ := led.story_held m List.mem_cons_self
  obtain ⟨absent, nodup⟩ := List.nodup_cons.mp led.nodup
  refine ⟨nodup, fun o member => ?_, fun view made gone => ?_, fun view new => ?_⟩
  · have differs : m.view ≠ o.view := fun same => absent (same ▸ List.mem_map_of_mem member)
    rw [List.filter_append, m.filter_isAbout_dispose, if_neg differs, List.append_nil]
    exact led.story_held o (List.mem_cons_of_mem _ member)
  · rw [List.filter_append, m.filter_isAbout_dispose]
    by_cases same : m.view = view
    · subst same
      rw [if_pos rfl, opening]
      exact ⟨m, rfl, rfl⟩
    · rw [if_neg same, List.append_nil]
      refine led.story_gone view made fun member => ?_
      rcases List.mem_cons.mp member with rfl | member
      · exact same rfl
      · exact gone member
  · rw [List.filter_append, led.story_new view new, m.filter_isAbout_dispose,
      if_neg (by omega), List.append_nil]

theorem disposeAll {ms : List MountedView} (led : Ledger (ms ++ held) views seen) :
    Ledger held views (seen ++ ms.flatMap MountedView.dispose) := by
  induction ms generalizing seen with
  | nil => simpa using led
  | cons m ms ih =>
    rw [List.flatMap_cons, ← List.append_assoc]
    exact ih led.dispose

end Ledger

/-! ## What a renderer holds -/

/-- The views that a renderer holds: in its slots, and for its operations. -/
def Renderer.held (r : Renderer) : List MountedView :=
  r.slots.toList ++ r.operations.filterMap RenderOperation.held?

theorem Slots.toList_perm (slots : Slots) (slot : Slot) :
    slots.toList.Perm ((slots.get slot).toList ++ (slots.get slot.other).toList) := by
  cases slot with
  | a => exact .refl _
  | b => exact List.perm_append_comm

theorem Slots.toList_set_perm (slots : Slots) (slot : Slot) (mounted : Option MountedView) :
    (slots.set slot mounted).toList.Perm (mounted.toList ++ (slots.get slot.other).toList) := by
  simpa using (slots.set slot mounted).toList_perm slot

theorem RenderOperation.perm_cons_filter {operations : List RenderOperation}
    (nodup : (operations.map RenderOperation.id).Nodup) {op : RenderOperation}
    (underWay : op ∈ operations) :
    operations.Perm (op :: operations.filter fun other => other.id ≠ op.id) := by
  induction operations with
  | nil => cases underWay
  | cons first rest ih =>
    obtain ⟨absent, nodup⟩ := List.nodup_cons.mp nodup
    rcases List.mem_cons.mp underWay with rfl | later
    · have others : rest.filter (fun other => other.id ≠ op.id) = rest := by
        rw [List.filter_eq_self]
        intro other member
        have differs : other.id ≠ op.id := fun same => absent (same ▸ List.mem_map_of_mem member)
        simpa using differs
      simp only [List.filter_cons, ne_eq, not_true_eq_false, decide_false, Bool.false_eq_true,
        if_false]
      rw [others]
    · have differs : first.id ≠ op.id := fun same => absent (same ▸ List.mem_map_of_mem later)
      rw [List.filter_cons_of_pos (by simpa using differs)]
      exact ((ih nodup later).cons first).trans (.swap op first _)

namespace Renderer.Ordered

variable {r : Renderer}

/-- What is held before an operation ends: its view, if it has one, and the rest. -/
theorem held_perm_finish (ord : r.Ordered) {op : RenderOperation} (underWay : op ∈ r.operations)
    (outcome : RenderOutcome) :
    r.held.Perm (op.held?.toList ++ (r.finish op outcome).1.held) := by
  have split := (RenderOperation.perm_cons_filter ord.nodup underWay).filterMap
    RenderOperation.held?
  refine (split.append_left r.slots.toList).trans ?_
  cases mounted : op.held? with
  | none => simp only [List.filterMap_cons, mounted]; exact .refl _
  | some m =>
    simp only [List.filterMap_cons, mounted]
    exact List.perm_middle

theorem held_setPhase_perm (ord : r.Ordered) {op : RenderOperation} (underWay : op ∈ r.operations)
    (phase : RenderPhase) (outcome : RenderOutcome) :
    (r.setPhase op.id phase).held.Perm
      ((RenderOperation.held? { op with phase }).toList ++ (r.finish op outcome).1.held) := by
  have ordNext := ord.setPhase op.id phase
  have underWayNext : { op with phase } ∈ (r.setPhase op.id phase).operations :=
    r.mem_setPhase.mpr ⟨op, underWay, (if_pos rfl).symm⟩
  have split := ordNext.held_perm_finish underWayNext outcome
  have rest : ((r.setPhase op.id phase).finish { op with phase } outcome).1.held =
      (r.finish op outcome).1.held := by
    -- Moving an operation on does not touch the others.
    have others : (r.setPhase op.id phase).operations.filter (fun other => other.id ≠ op.id) =
        r.operations.filter fun other => other.id ≠ op.id := by
      simp only [Renderer.setPhase, List.filter_map]
      have same : (r.operations.filter ((fun other => decide (other.id ≠ op.id)) ∘ fun old =>
          if old.id = op.id then { old with phase } else old)) =
          r.operations.filter fun other => other.id ≠ op.id := by
        refine List.filter_congr fun old _ => ?_
        dsimp only [Function.comp_apply]
        split <;> rfl
      rw [same]
      refine (List.map_congr_left fun old member => ?_).trans (List.map_id _)
      have differs : old.id ≠ op.id := by simpa using List.of_mem_filter member
      rw [if_neg differs]
      rfl
    change r.slots.toList ++ List.filterMap _ (List.filter _ _) = _
    rw [others]
    rfl
  rw [rest] at split
  exact split

end Renderer.Ordered

theorem Renderer.filterMap_held?_abortCurrent (r : Renderer) :
    r.abortCurrent.operations.filterMap RenderOperation.held? =
      r.operations.filterMap RenderOperation.held? := by
  simp only [Renderer.abortCurrent, List.filterMap_map]
  refine List.filterMap_congr fun op _ => ?_
  dsimp only [Function.comp_apply]
  split <;> rfl

/-- A retirement gives up the view that it is about, if this one is still hidden
in its slot. -/
theorem Renderer.retired?_eq_some_iff {r : Renderer} {retirement : Retirement} {m : MountedView} :
    r.retired? retirement = some m ↔ r.active ≠ retirement.slot ∧
      r.slots.get retirement.slot = some m ∧ retirement.generation = some m.generation := by
  unfold Renderer.retired?
  split
  next same => simp [same]
  next differs => simp [differs, Option.filter_eq_some_iff]

/-! ## Preservation -/

namespace Ledger

variable {r : Renderer} {seen : List RenderEffect}

theorem discard (ord : r.Ordered) (led : Ledger r.held r.views seen) {op : RenderOperation}
    {view : Nat} {attached : List AttachedListener} (underWay : op ∈ r.operations)
    (holds : op.held? = some ⟨view, attached, op.id⟩) :
    Ledger (r.discard op view attached).1.held r.views
      (seen ++ (r.discard op view attached).2) := by
  have split := ord.held_perm_finish underWay .aborted
  rw [holds] at split
  have told := (led.perm split).dispose.silent [.answered op.requester .aborted]
    (by simp [RenderEffect.isAbout])
  rw [List.append_assoc] at told
  exact told

/-- A swap moves the operation's view into its slot; a view that was there is
given up. -/
theorem swap (ord : r.Ordered) (led : Ledger r.held r.views seen) {op : RenderOperation}
    {view : Nat} {attached : List AttachedListener} (underWay : op ∈ r.operations)
    (phase : op.phase = .attaching view attached []) :
    Ledger (r.swap op ⟨view, attached, op.id⟩).1.held r.views
      (seen ++ (r.swap op ⟨view, attached, op.id⟩).2) := by
  have holds : op.held? = some ⟨view, attached, op.id⟩ := by simp [RenderOperation.held?, phase]
  have before := ord.held_perm_finish underWay .rendered
  rw [holds] at before
  let rest := (r.operations.filter fun other => other.id ≠ op.id).filterMap RenderOperation.held?
  let replaced := (r.slots.get op.target).toList
  let kept := (r.slots.get op.target.other).toList
  -- The view that was in the slot comes first, as it is the one to be given up.
  have moved : r.held.Perm (replaced ++ (r.swap op ⟨view, attached, op.id⟩).1.held) := by
    calc r.held.Perm (⟨view, attached, op.id⟩ :: (r.slots.toList ++ rest)) := before
      _ |>.Perm (⟨view, attached, op.id⟩ :: (replaced ++ kept ++ rest)) :=
        ((r.slots.toList_perm op.target).append_right rest).cons _
      _ |>.Perm (replaced ++ (⟨view, attached, op.id⟩ :: (kept ++ rest))) := by
        rw [List.append_assoc]
        exact List.perm_middle.symm
      _ |>.Perm (replaced ++ (r.swap op ⟨view, attached, op.id⟩).1.held) :=
        (((r.slots.toList_set_perm op.target (some ⟨view, attached, op.id⟩)).append_right
          rest).symm).append_left replaced
  have status := led.silent [.status op.target true] (by simp [RenderEffect.isAbout])
  have told := (status.perm moved).disposeAll.silent [.answered op.requester .rendered]
    (by simp [RenderEffect.isAbout])
  simp only [List.append_assoc] at told
  exact told

theorem retire (led : Ledger r.held r.views seen) (retirement : Retirement) :
    Ledger (r.retire retirement).1.held r.views (seen ++ (r.retire retirement).2) := by
  let status := (r.retire retirement).1.statusEffect
  have quiet : ∀ effect ∈ [status], ∀ view, effect.isAbout view = false := by
    intro effect member view
    rw [List.mem_singleton.mp member]
    rfl
  cases stale : r.retired? retirement with
  | none =>
    have held : (r.retire retirement).1.held = r.held := by
      simp [Renderer.held, Renderer.retire, stale]
    have effects : (r.retire retirement).2 = [status] := by
      simp [status, Renderer.retire, stale]
    rw [held, effects]
    exact led.silent _ quiet
  | some m =>
    obtain ⟨-, mounted, -⟩ := Renderer.retired?_eq_some_iff.mp stale
    let rest := r.operations.filterMap RenderOperation.held?
    have held : (r.retire retirement).1.held =
        (r.slots.set retirement.slot none).toList ++ rest := by
      simp [rest, Renderer.held, Renderer.retire, stale]
    have effects : (r.retire retirement).2 = m.dispose ++ [status] := by
      simp [status, Renderer.retire, stale]
    have before := (r.slots.toList_perm retirement.slot).append_right rest
    have after := (r.slots.toList_set_perm retirement.slot none).append_right rest
    rw [mounted] at before
    have told := ((led.perm before).dispose.perm after.symm).silent _ quiet
    rw [List.append_assoc] at told
    rw [held, effects]
    exact told

/-- Every transition keeps the ledger. -/
theorem transition {event : RenderEvent} {next : Renderer.Result} (ord : r.Ordered)
    (led : Ledger r.held r.views seen) (t : r.Transition event next) :
    Ledger next.1.held next.1.views (seen ++ next.2) := by
  cases t with
  | idle _ | advance _ => rw [List.append_nil]; exact led
  | report coordinator calls _ _ => exact led.silent _ (by simp [RenderEffect.isAbout])
  | unchanged _ _ _ _ => exact led.silent _ (by simp [RenderEffect.isAbout])
  | start requester request _ =>
    have held : (r.start requester request).held = r.held := by
      simp only [Renderer.held, Renderer.start, List.filterMap_append,
        r.filterMap_held?_abortCurrent]
      simp [RenderOperation.held?, Renderer.abortCurrent]
    rw [held]
    exact led.silent _ (by simp [RenderEffect.isAbout])
  | @fail op underWay phase =>
    have split := ord.held_perm_finish underWay .failed
    simp only [RenderOperation.held?, phase] at split
    exact (led.perm split).silent _ (by simp [Renderer.finish, RenderEffect.isAbout])
  | @create op underWay phase _ =>
    have before := ord.held_perm_finish underWay .aborted
    have after := ord.held_setPhase_perm underWay (.embedded r.views) .aborted
    simp only [RenderOperation.held?, phase] at before after
    exact ((led.perm before).create op.id).perm after.symm
  | @createAborted op underWay phase _ =>
    have split := ord.held_perm_finish underWay .aborted
    simp only [RenderOperation.held?, phase] at split
    have told := ((led.perm split).create op.id).dispose.silent
      [.answered op.requester .aborted] (by simp [RenderEffect.isAbout])
    simp only [List.append_assoc, List.singleton_append] at told
    exact told
  | @resume op view underWay phase _ =>
    have before := ord.held_perm_finish underWay .aborted
    have after := ord.held_setPhase_perm underWay
      (.attaching view [] (listenerPlan op.request.config op.request.mobile)) .aborted
    simp only [RenderOperation.held?, phase] at before after
    rw [List.append_nil]
    exact led.perm (before.trans after.symm)
  | @attach op view attached listener missing underWay phase =>
    have before := ord.held_perm_finish underWay .aborted
    have after := ord.held_setPhase_perm underWay
      (.attaching view (attached ++ [⟨listener, attached.length⟩]) missing) .aborted
    simp only [RenderOperation.held?, phase] at before after
    exact ((led.perm before).listen _).perm after.symm
  | discard underWay _ _ holds => exact led.discard ord underWay holds
  | swap underWay _ phase => exact led.swap ord underWay phase
  | @retire retirement _ _ => exact led.retire retirement
  | cleanUp =>
    have held : r.cleanUp.1.held = r.operations.filterMap RenderOperation.held? :=
      r.filterMap_held?_abortCurrent
    rw [held]
    have told := led.disposeAll.silent [.status r.active false] (by simp [RenderEffect.isAbout])
    rw [List.append_assoc] at told
    exact told

end Ledger

theorem Ledger.run (coordinator : Coordinator) (events : List RenderEvent) :
    let reached := (Renderer.fresh coordinator).run events
    Ledger reached.1.held reached.1.views reached.2 := by
  have both := Renderer.run_induction (P := fun _ r seen => r.Ordered ∧ Ledger r.held r.views seen)
    ⟨.fresh coordinator, .empty⟩
    (fun _ r seen event inv =>
      ⟨inv.1.transition (r.transition_step event),
        inv.2.transition inv.1 (r.transition_step event)⟩)
    events
  exact both.2

end ChartCompiler
