import Mathlib
import ChartCompiler.Proofs.Render.ViewLife

/-!
What the owner of a renderer is told. Every change of the visible slot and of the flag of the
transition is followed by a report of both, so the last report is always true
(`Renderer.lastReport_run`).

The flag itself is tied to the history: `Renderer.InTransition` says of a swap that it is the
last one and that neither its own timer has gone off since nor a cleanup has come. Each step
keeps the flag and this history together (`Renderer.Ordered.transitioning_step`,
`Renderer.inTransition_concat_iff`), whichever timers of older swaps go off in between.
-/

namespace ChartCompiler

/-! ## Reports -/

/-- What the owner is told by an effect. -/
def RenderEffect.report? : RenderEffect → Option (Slot × Bool)
  | .status active transitioning => some (active, transitioning)
  | _ => none

/-- The last report among the effects, or the one before them if there is none. -/
def lastReport (before : Slot × Bool) (effects : List RenderEffect) : Slot × Bool :=
  (effects.filterMap RenderEffect.report?).getLast?.getD before

/-- What a report should say now. -/
def Renderer.status (r : Renderer) : Slot × Bool :=
  (r.active, r.transitioning)

section

variable {before : Slot × Bool} {effects : List RenderEffect}

theorem lastReport_append (before : Slot × Bool) (effects more : List RenderEffect) :
    lastReport before (effects ++ more) = lastReport (lastReport before effects) more := by
  unfold lastReport
  rw [List.filterMap_append, List.getLast?_append, Option.getD_or]

theorem lastReport_of_silent (silent : ∀ effect ∈ effects, effect.report? = none) :
    lastReport before effects = before := by
  unfold lastReport
  rw [List.filterMap_eq_nil_iff.mpr silent]
  rfl

theorem lastReport_status (before : Slot × Bool) (r : Renderer) :
    lastReport before [r.statusEffect] = r.status :=
  rfl

theorem MountedView.report?_of_mem_dispose {m : MountedView} {effect : RenderEffect}
    (member : effect ∈ m.dispose) : effect.report? = none := by
  rcases List.mem_append.mp member with unlisten | finalize
  · obtain ⟨attached, -, rfl⟩ := List.mem_map.mp unlisten
    rfl
  · rw [List.mem_singleton.mp finalize]
    rfl

theorem MountedView.report?_of_mem_flatMap_dispose {ms : List MountedView} {effect : RenderEffect}
    (member : effect ∈ ms.flatMap dispose) : effect.report? = none := by
  obtain ⟨m, -, disposed⟩ := List.mem_flatMap.mp member
  exact m.report?_of_mem_dispose disposed

end

/-- A transition after which the last report was true leaves the last report true. -/
theorem Renderer.Transition.lastReport_eq {r : Renderer} {event : RenderEvent}
    {next : Renderer.Result} (t : r.Transition event next) :
    lastReport r.status next.2 = next.1.status := by
  cases t with
  | report coordinator calls _ _ =>
    refine lastReport_of_silent fun effect member => ?_
    obtain ⟨call, -, rfl⟩ := List.mem_map.mp member
    rfl
  | @createAborted op _ _ _ =>
    refine lastReport_of_silent fun effect member => ?_
    rcases List.mem_cons.mp member with rfl | given
    · rfl
    · rcases List.mem_append.mp given with disposed | told
      · exact MountedView.report?_of_mem_dispose disposed
      · rw [List.mem_singleton.mp told]
        rfl
  | @discard _ op view attached _ _ _ _ =>
    refine lastReport_of_silent fun effect member => ?_
    rcases List.mem_append.mp member with disposed | told
    · exact MountedView.report?_of_mem_dispose disposed
    · rw [List.mem_singleton.mp told]
      rfl
  | @swap op view attached _ _ _ =>
    -- The report comes first; giving up the view that was in the way says no more.
    change lastReport r.status ([.status op.target true] ++ (_ ++ _)) = (op.target, true)
    rw [lastReport_append]
    refine lastReport_of_silent fun effect member => ?_
    rcases List.mem_append.mp member with disposed | told
    · exact MountedView.report?_of_mem_flatMap_dispose disposed
    · rw [List.mem_singleton.mp told]
      rfl
  | @retire retirement _ _ =>
    change lastReport r.status (_ ++ [(r.retire retirement).1.statusEffect]) = _
    rw [lastReport_append, lastReport_status]
  | cleanUp =>
    change lastReport r.status (_ ++ [r.cleanUp.1.statusEffect]) = _
    rw [lastReport_append, lastReport_status]
  | _ => rfl

theorem Renderer.lastReport_run (coordinator : Coordinator) (events : List RenderEvent) :
    let reached := (Renderer.fresh coordinator).run events
    lastReport (.a, false) reached.2 = reached.1.status := by
  have initially : lastReport (.a, false) [] = (Renderer.fresh coordinator).status := rfl
  refine Renderer.run_induction (P := fun _ r seen => lastReport (.a, false) seen = r.status)
    initially ?_ events
  intro _ r seen event told
  rw [lastReport_append, told]
  exact (r.transition_step event).lastReport_eq

/-! ## Timers -/

/-- The swaps whose timers go off at an event: their retirements are no longer to come. -/
def Renderer.expired (r : Renderer) (event : RenderEvent) : List Nat :=
  (r.retirements.filter fun t => t ∉ (r.step event).1.retirements).map Retirement.swap

/-- The swaps whose timers go off in a run, in order. -/
def Renderer.expirations (r : Renderer) (events : List RenderEvent) : List Nat :=
  r.gather Renderer.expired events

section

variable {r : Renderer} {event : RenderEvent} {id : Nat}

theorem Renderer.mem_expired :
    id ∈ r.expired event ↔ ∃ t ∈ r.retirements, t ∉ (r.step event).1.retirements ∧ t.swap = id := by
  simp [Renderer.expired, and_assoc]

theorem Renderer.expired_eq_nil (stays : ∀ t ∈ r.retirements, t ∈ (r.step event).1.retirements) :
    r.expired event = [] := by
  rw [List.eq_nil_iff_forall_not_mem]
  intro id gone
  obtain ⟨t, pending, ended, -⟩ := Renderer.mem_expired.mp gone
  exact ended (stays t pending)

/-- A retirement takes its own timer and no other one off the list. -/
theorem Renderer.mem_expired_of_retire {retirement : Retirement}
    (pending : retirement ∈ r.retirements) (next : r.step event = r.retire retirement) :
    id ∈ r.expired event ↔ id = retirement.swap := by
  have ended : ∀ t, t ∈ (r.step event).1.retirements ↔
      t ∈ r.retirements ∧ t.swap ≠ retirement.swap := by
    intro t
    rw [next]
    change t ∈ r.retirements.filter _ ↔ _
    rw [List.mem_filter, decide_eq_true_eq]
  rw [Renderer.mem_expired]
  constructor
  · intro gone
    obtain ⟨t, isPending, isEnded, rfl⟩ := gone
    rw [ended, not_and_not_right] at isEnded
    exact isEnded isPending
  · intro own
    refine ⟨retirement, pending, ?_, own.symm⟩
    rw [ended]
    exact fun stays => stays.2 rfl

theorem Renderer.Timed.step_expire (timed : r.Timed) {t : Retirement} (pending : t ∈ r.retirements)
    (due : t.due ≤ r.now) : r.step (.expire t.swap) = r.retire t := by
  have found : (r.retirements.find? fun other => other.swap = t.swap && other.due ≤ r.now) =
      some t := by
    have isSome : (r.retirements.find? fun other =>
        other.swap = t.swap && other.due ≤ r.now).isSome := by
      rw [List.find?_isSome]
      exact ⟨t, pending, by simpa using due⟩
    obtain ⟨other, isOther⟩ := Option.isSome_iff_exists.mp isSome
    have same : other.swap = t.swap := by
      have holds := List.find?_some isOther
      simp only [Bool.and_eq_true, decide_eq_true_eq] at holds
      exact holds.1
    rw [isOther, List.inj_on_of_nodup_map timed.nodup (List.mem_of_find?_eq_some isOther) pending
      same]
  unfold Renderer.step
  dsimp only
  rw [found]

/-- A timer goes off once it is due, and never before. -/
theorem Renderer.Timed.mem_expired_iff (timed : r.Timed) : id ∈ r.expired event ↔
    event = .expire id ∧ ∃ t ∈ r.retirements, t.swap = id ∧ t.due ≤ r.now := by
  constructor
  · intro gone
    rcases (r.transition_step event).display_cases with
      ⟨-, same⟩ | ⟨op, view, attached, -, -, -, -, next⟩ | ⟨retirement, pending, due, rfl, next⟩ |
        ⟨-, next⟩
    · rw [Renderer.expired_eq_nil fun t pending => same ▸ pending] at gone
      cases gone
    · have stays : ∀ t ∈ r.retirements, t ∈ (r.step event).1.retirements := by
        intro t pending
        rw [next]
        exact List.mem_append_left _ pending
      rw [Renderer.expired_eq_nil stays] at gone
      cases gone
    · obtain rfl := (Renderer.mem_expired_of_retire pending next).mp gone
      exact ⟨rfl, retirement, pending, rfl, due⟩
    · rw [Renderer.expired_eq_nil fun t pending => by rw [next]; exact pending] at gone
      cases gone
  · intro due
    obtain ⟨rfl, t, pending, rfl, isDue⟩ := due
    exact (Renderer.mem_expired_of_retire pending (timed.step_expire pending isDue)).mpr rfl

/-! ## The flag of the transition -/

/-- A step turns the flag on by a swap, and keeps it on unless it is a cleanup or the timer of
the last swap goes off. -/
theorem Renderer.Ordered.transitioning_step (ord : r.Ordered) (event : RenderEvent) :
    (r.step event).1.transitioning = true ↔
      r.swapped event ≠ [] ∨
        (r.transitioning = true ∧ event ≠ .cleanUp ∧ r.lastSwap ∉ r.expired event) := by
  by_cases isCleanUp : event = .cleanUp
  · subst isCleanUp
    have none : r.swapped .cleanUp = [] := r.swapped_eq_nil fun m mounted => by cases mounted
    simp [none, Renderer.step, Renderer.cleanUp]
  rcases (r.transition_step event).display_cases with
    ⟨display, same⟩ | ⟨op, view, attached, underWay, live, phase, rfl, next⟩ |
      ⟨retirement, pending, -, -, next⟩ | ⟨cleanUp, -⟩
  · have flag : (r.step event).1.transitioning = r.transitioning :=
      congrArg Renderer.Display.transitioning display
    have slots := (Renderer.fields_of_display display).2.1
    have none : r.swapped event = [] := r.swapped_eq_nil fun m mounted => slots ▸ mounted
    have quiet : r.expired event = [] := Renderer.expired_eq_nil fun t pending => same ▸ pending
    simp [flag, none, quiet, isCleanUp]
  · have swapped : op.id ∈ r.swapped (.commit op.id) :=
      ord.mem_swapped_iff.mpr ⟨rfl, op, underWay, rfl, live, view, attached, phase⟩
    have flag : (r.step (.commit op.id)).1.transitioning = true := by
      rw [next]
      rfl
    exact iff_of_true flag (.inl (List.ne_nil_of_mem swapped))
  · have none : r.swapped event = [] := by
      refine r.swapped_eq_nil fun m mounted => ?_
      rw [next] at mounted
      exact r.mem_slots_of_retire mounted
    have flag : (r.step event).1.transitioning =
        (r.transitioning && r.lastSwap ≠ retirement.swap) := by
      rw [next]
      rfl
    simp [flag, none, isCleanUp, Renderer.mem_expired_of_retire pending next]
  · exact absurd cleanUp isCleanUp

/-- The last swap of the run made the operation visible, and since then there was no cleanup and
the swap's own timer has not gone off. -/
def Renderer.InTransition (start : Renderer) (events : List RenderEvent) (id : Nat) : Prop :=
  ∃ before event after, events = before ++ event :: after ∧
    id ∈ (start.run before).1.swapped event ∧
    let shown := ((start.run before).1.step event).1
    shown.swaps after = [] ∧ .cleanUp ∉ after ∧ id ∉ shown.expirations after

theorem Renderer.inTransition_concat_iff {start : Renderer} {events : List RenderEvent} :
    start.InTransition (events ++ [event]) id ↔
      id ∈ (start.run events).1.swapped event ∨
        (start.InTransition events id ∧ (start.run events).1.swapped event = [] ∧
          event ≠ .cleanUp ∧ id ∉ (start.run events).1.expired event) := by
  have reached : ∀ (before : List RenderEvent) (swap : RenderEvent) (after : List RenderEvent),
      (start.run (before ++ swap :: after)).1 =
        (((start.run before).1.step swap).1.run after).1 := by
    intro before swap after
    rw [Renderer.run_append_fst, Renderer.run_cons_fst]
  constructor
  · intro during
    obtain ⟨before, swap, after, split, swapped, noSwap, noCleanUp, noTimer⟩ := during
    induction after using List.reverseRecOn with
    | nil =>
      obtain ⟨rfl, same⟩ := List.append_inj' split rfl
      obtain rfl := List.singleton_inj.mp same
      exact .inl swapped
    | append_singleton after last _ =>
      rw [← List.cons_append, ← List.append_assoc] at split
      obtain ⟨rfl, same⟩ := List.append_inj' split rfl
      obtain rfl := List.singleton_inj.mp same
      unfold Renderer.swaps at noSwap
      unfold Renderer.expirations at noTimer
      rw [Renderer.gather_concat, ← reached] at noSwap noTimer
      rw [List.append_eq_nil_iff] at noSwap
      rw [List.mem_append, not_or] at noTimer noCleanUp
      refine .inr ⟨⟨before, swap, after, rfl, swapped, noSwap.1, noCleanUp.1, noTimer.1⟩,
        noSwap.2, ?_, noTimer.2⟩
      exact fun cleanUp => noCleanUp.2 (cleanUp ▸ List.mem_singleton_self _)
  · intro now
    rcases now with swapped | ⟨during, noSwap, noCleanUp, noTimer⟩
    · exact ⟨events, event, [], rfl, swapped, rfl, List.not_mem_nil, List.not_mem_nil⟩
    · obtain ⟨before, swap, after, rfl, swapped, earlier⟩ := during
      rw [reached] at noSwap noTimer
      refine ⟨before, swap, after ++ [event], by simp, swapped, ?_, ?_, ?_⟩
      · unfold Renderer.swaps
        rw [Renderer.gather_concat, List.append_eq_nil_iff]
        exact ⟨earlier.1, noSwap⟩
      · rw [List.mem_append, List.mem_singleton, not_or]
        exact ⟨earlier.2.1, Ne.symm noCleanUp⟩
      · unfold Renderer.expirations
        rw [Renderer.gather_concat, List.mem_append, not_or]
        exact ⟨earlier.2.2, noTimer⟩

end

/-- The flag is on as long as a transition is, which is that of the last swap, and its timer is
then to come. -/
structure Renderer.Tracks (start : Renderer) (events : List RenderEvent) (r : Renderer) : Prop where
  flag : r.transitioning = true ↔ start.InTransition events r.lastSwap
  last : ∀ id, start.InTransition events id → id = r.lastSwap
  pending : r.transitioning = true → ∃ t ∈ r.retirements, t.swap = r.lastSwap

namespace Renderer.Tracks

variable {start : Renderer} {events : List RenderEvent}

theorem nil (coordinator : Coordinator) :
    Renderer.Tracks (Renderer.fresh coordinator) [] (Renderer.fresh coordinator) := by
  have none : ∀ id, ¬ (Renderer.fresh coordinator).InTransition [] id := by
    intro id during
    obtain ⟨before, swap, after, split, -⟩ := during
    cases before <;> cases split
  exact ⟨iff_of_false Bool.false_ne_true (none _), fun id during => absurd during (none id), nofun⟩

theorem step (tracks : start.Tracks events (start.run events).1)
    (ord : (start.run events).1.Ordered) (event : RenderEvent) :
    start.Tracks (events ++ [event]) ((start.run events).1.step event).1 := by
  have flag := ord.transitioning_step event
  rcases ord.swapped_cases event with
    ⟨none, -, same⟩ | ⟨op, underWay, live, -, only, view, attached, -, next⟩
  · constructor
    · rw [flag, same, inTransition_concat_iff, none, tracks.flag]
      simp
    · intro id during
      rw [inTransition_concat_iff, none] at during
      rw [same]
      exact tracks.last id (during.resolve_left List.not_mem_nil).1
    · intro on
      obtain ⟨wasOn, -, noTimer⟩ := (flag.mp on).resolve_left (not_not_intro none)
      obtain ⟨t, pending, own⟩ := tracks.pending wasOn
      rw [same]
      refine ⟨t, ?_, own⟩
      by_contra ended
      exact noTimer (mem_expired.mpr ⟨t, pending, ended, own⟩)
  · have last : ((start.run events).1.step event).1.lastSwap = op.id := by
      rw [next]
      rfl
    constructor
    · rw [flag, last, inTransition_concat_iff, only]
      simp
    · intro id during
      rw [inTransition_concat_iff, only] at during
      rw [last]
      rcases during with swapped | ⟨-, none, -⟩
      · exact List.mem_singleton.mp swapped
      · cases none
    · intro _
      rw [last, next]
      exact ⟨_, List.mem_append_right _ (List.mem_singleton_self _), rfl⟩

theorem run (coordinator : Coordinator) (events : List RenderEvent) :
    (Renderer.fresh coordinator).Tracks events ((Renderer.fresh coordinator).run events).1 := by
  induction events using List.reverseRecOn with
  | nil => exact nil coordinator
  | append_singleton events event ih =>
    rw [Renderer.run_concat]
    exact ih.step (.run coordinator events) event

end Renderer.Tracks

/-- **Reports are true.** After every run, and so after every step of it, what was reported last
(at first: the first slot, and no transition) is what is visible and whether a transition is on.
A transition is on exactly while it is that of the last swap, with no cleanup and with this swap's
own timer not gone off since. The timer goes off once it is due and is still to come while the
transition is on; a step that is no swap and no cleanup, and at which at most timers of other swaps
go off, leaves the flag as it was. -/
theorem Renderer.reports_true (coordinator : Coordinator) (events : List RenderEvent) :
    let start := Renderer.fresh coordinator
    let reached := start.run events
    let r := reached.1
    lastReport (.a, false) reached.2 = r.status ∧
    (r.transitioning = true ↔ ∃ id, start.InTransition events id) ∧
    (∀ id, start.InTransition events id → id = r.lastSwap ∧ ∃ t ∈ r.retirements, t.swap = id) ∧
    (∀ event id, id ∈ r.expired event ↔
      event = .expire id ∧ ∃ t ∈ r.retirements, t.swap = id ∧ t.due ≤ r.now) ∧
    (∀ event, r.swapped event = [] → event ≠ .cleanUp → r.lastSwap ∉ r.expired event →
      (r.step event).1.transitioning = r.transitioning) := by
  intro start reached r
  have ord : r.Ordered := .run coordinator events
  have timed : r.Timed := .run coordinator events
  have tracks : start.Tracks events r := .run coordinator events
  refine ⟨Renderer.lastReport_run coordinator events, ?_, ?_, fun event id => timed.mem_expired_iff,
    ?_⟩
  · rw [tracks.flag]
    constructor
    · intro during
      exact ⟨_, during⟩
    · intro during
      obtain ⟨id, during⟩ := during
      exact tracks.last id during ▸ during
  · intro id during
    obtain rfl := tracks.last id during
    exact ⟨rfl, tracks.pending (tracks.flag.mpr during)⟩
  · intro event none spares noTimer
    rw [Bool.eq_iff_iff, ord.transitioning_step event]
    simp [none, spares, noTimer]

/-- The second of two swaps comes before the first transition is over: the timer of the first one
goes off, and the transition of the second one stays on. -/
theorem Renderer.reports_true_overlapping :
    let events : List RenderEvent := [.request (.task 0) { document := .bool true },
      .embedded 1 true, .resume 1, .attach 1, .commit 1, .advance 200,
      .request (.task 1) { document := .bool false }, .embedded 2 true, .resume 2, .attach 2,
      .commit 2, .advance 100]
    let r := ((Renderer.fresh { config := {}, schema := .empty }).run events).1
    r.transitioning = true ∧ r.swapped (.expire 1) = [] ∧ r.lastSwap ∉ r.expired (.expire 1) ∧
      1 ∈ r.expired (.expire 1) ∧ (r.step (.expire 1)).1.transitioning = true := by
  intro events r
  have timer : r.transitioning = true ∧ r.swapped (.expire 1) = [] ∧
      r.lastSwap ∉ r.expired (.expire 1) ∧ 1 ∈ r.expired (.expire 1) := by decide +kernel
  have reports := Renderer.reports_true { config := {}, schema := .empty } events
  have kept : ∀ event, r.swapped event = [] → event ≠ .cleanUp → r.lastSwap ∉ r.expired event →
      (r.step event).1.transitioning = r.transitioning := reports.2.2.2.2
  clear_value r
  obtain ⟨on, noSwap, other, goesOff⟩ := timer
  exact ⟨on, noSwap, other, goesOff, (kept _ noSwap nofun other).trans on⟩

end ChartCompiler
