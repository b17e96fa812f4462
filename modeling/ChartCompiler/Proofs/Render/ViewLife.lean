import Mathlib
import ChartCompiler.Proofs.Render.Swap
import ChartCompiler.Proofs.Render.Ledger

/-!
The life of a view, from the engine that makes it to its finalization. The ledger
of views says that no view is finalized twice, or before its listeners are gone,
or while it is held. What it does not say is when a displaced view goes:
`Renderer.Timed` ties the view that is hidden to the retirement that the last
swap has set for it, and `Renderer.LivesOn` follows one displaced view through
the events after its swap.
-/

namespace ChartCompiler

/-! ## What the ledger tells of finalization -/

theorem MountedView.finalize_notMem_opening (m : MountedView) (view : Nat) :
    .finalize view ∉ m.opening := by
  simp [MountedView.opening]

theorem MountedView.countP_isFinalize_opening (m : MountedView) (view : Nat) :
    m.opening.countP (RenderEffect.isFinalize view) = 0 := by
  simp [MountedView.opening, List.countP_eq_zero, RenderEffect.isFinalize]

theorem MountedView.countP_isFinalize_dispose (m : MountedView) :
    m.dispose.countP (RenderEffect.isFinalize m.view) = 1 := by
  have unlistens : (m.listeners.map (RenderEffect.unlisten m.view)).countP
      (RenderEffect.isFinalize m.view) = 0 := by
    simp [List.countP_eq_zero, RenderEffect.isFinalize]
  unfold MountedView.dispose
  rw [List.countP_append, unlistens]
  simp [RenderEffect.isFinalize]

theorem RenderEffect.countP_isFinalize_filter (seen : List RenderEffect) (view : Nat) :
    (seen.filter (RenderEffect.isAbout view)).countP (RenderEffect.isFinalize view) =
      seen.countP (RenderEffect.isFinalize view) := by
  rw [List.countP_filter]
  refine List.countP_congr fun effect _ => ?_
  cases effect <;> simp [RenderEffect.isFinalize, RenderEffect.isAbout]

namespace Ledger

variable {held : List MountedView} {views : Nat} {seen : List RenderEffect}

theorem finalize_notMem (led : Ledger held views seen) {m : MountedView} (isHeld : m ∈ held) :
    .finalize m.view ∉ seen := by
  intro finalized
  have story := (led.story_held m isHeld).2
  have told : .finalize m.view ∈ seen.filter (RenderEffect.isAbout m.view) :=
    List.mem_filter.mpr ⟨finalized, by simp [RenderEffect.isAbout]⟩
  rw [story] at told
  exact m.finalize_notMem_opening m.view told

/-- A view that has been finalized was held and then given up. -/
theorem story_finalized (led : Ledger held views seen) {view : Nat}
    (finalized : .finalize view ∈ seen) : ∃ m : MountedView, m.view = view ∧
      seen.filter (RenderEffect.isAbout view) = m.opening ++ m.dispose := by
  have told : .finalize view ∈ seen.filter (RenderEffect.isAbout view) :=
    List.mem_filter.mpr ⟨finalized, by simp [RenderEffect.isAbout]⟩
  by_cases made : view < views
  · refine led.story_gone view made fun listed => ?_
    obtain ⟨m, isHeld, rfl⟩ := List.mem_map.mp listed
    exact led.finalize_notMem isHeld finalized
  · rw [led.story_new view (by omega)] at told
    cases told

theorem countP_isFinalize_of_gone (led : Ledger held views seen) {view : Nat}
    (made : view < views) (gone : view ∉ held.map MountedView.view) :
    seen.countP (RenderEffect.isFinalize view) = 1 := by
  obtain ⟨m, rfl, story⟩ := led.story_gone view made gone
  rw [← RenderEffect.countP_isFinalize_filter, story, List.countP_append,
    m.countP_isFinalize_opening, m.countP_isFinalize_dispose]

theorem countP_isFinalize_le (led : Ledger held views seen) (view : Nat) :
    seen.countP (RenderEffect.isFinalize view) ≤ 1 := by
  by_cases made : view < views
  · by_cases listed : view ∈ held.map MountedView.view
    · obtain ⟨m, isHeld, rfl⟩ := List.mem_map.mp listed
      have story := (led.story_held m isHeld).2
      rw [← RenderEffect.countP_isFinalize_filter, story, m.countP_isFinalize_opening]
      exact Nat.zero_le 1
    · exact Nat.le_of_eq (led.countP_isFinalize_of_gone made listed)
  · rw [← RenderEffect.countP_isFinalize_filter, led.story_new view (by omega)]
    exact Nat.zero_le 1

/-- What was seen of a view before it was finalized, and after. -/
theorem story_around_finalize (led : Ledger held views seen) {view : Nat}
    {before after : List RenderEffect} (split : seen = before ++ .finalize view :: after) :
    (∃ (operation : Nat) (attached : List AttachedListener),
      before.filter (RenderEffect.isAbout view) = .created operation view ::
        (attached.map (.listen view) ++ attached.map (.unlisten view))) ∧
      after.filter (RenderEffect.isAbout view) = [] := by
  have finalized : .finalize view ∈ seen := by
    rw [split]
    exact List.mem_append_right _ List.mem_cons_self
  obtain ⟨m, rfl, story⟩ := led.story_finalized finalized
  have about : RenderEffect.isAbout m.view (.finalize m.view) = true := by
    simp [RenderEffect.isAbout]
  rw [split, List.filter_append, List.filter_cons_of_pos about] at story
  -- The finalization is the last that is seen of the view, so the two lists split alike.
  have aligned : (m.opening ++ m.listeners.map (.unlisten m.view)) ++ .finalize m.view :: [] =
      before.filter (RenderEffect.isAbout m.view) ++
        .finalize m.view :: after.filter (RenderEffect.isAbout m.view) := by
    rw [story, MountedView.dispose, List.append_assoc]
  have notBefore : .finalize m.view ∉ m.opening ++ m.listeners.map (.unlisten m.view) := by
    simp [MountedView.opening]
  obtain ⟨same, -, rest⟩ :=
    (List.append_cons_inj_of_notMem notBefore List.not_mem_nil).mp aligned
  exact ⟨⟨m.generation, m.listeners, same.symm⟩, rest.symm⟩

end Ledger

/-! ## Retirements to come -/

theorem Renderer.get_slots_retire (r : Renderer) (retirement : Retirement) (slot : Slot) :
    (r.retire retirement).1.slots.get slot =
      if slot = retirement.slot ∧ (r.retired? retirement).isSome then none
      else r.slots.get slot := by
  unfold Renderer.retire
  by_cases given : (r.retired? retirement).isSome
  · rcases retirement.slot.eq_or_eq_other slot with rfl | rfl
    · simp [given]
    · simp [given]
  · simp [given]

theorem Renderer.get_slots_cleanUp (r : Renderer) (slot : Slot) :
    r.cleanUp.1.slots.get slot = none := by
  cases slot <;> rfl

/-- The retirements to come belong to different swaps of the past, and each is
about a view that was mounted before its swap. The visible view is the one that
swapped last, and a view that is hidden is the one that this swap displaced: the
swap's own retirement is still to come. -/
structure Renderer.Timed (r : Renderer) : Prop where
  nodup : (r.retirements.map Retirement.swap).Nodup
  swap_le : ∀ t ∈ r.retirements, t.swap ≤ r.lastSwap
  generation_lt : ∀ t ∈ r.retirements, ∀ generation, t.generation = some generation →
    generation < t.swap
  visible : ∀ m, r.slots.get r.active = some m → m.generation = r.lastSwap
  hidden : ∀ m, r.slots.get r.active.other = some m → ∃ t ∈ r.retirements,
    t.swap = r.lastSwap ∧ t.slot = r.active.other ∧ t.generation = some m.generation

namespace Renderer.Timed

variable {r : Renderer}

theorem fresh (coordinator : Coordinator) : (Renderer.fresh coordinator).Timed where
  nodup := List.nodup_nil
  swap_le := nofun
  generation_lt := nofun
  visible := nofun
  hidden := nofun

theorem frame {r' : Renderer} (timed : r.Timed) (display : r'.display = r.display)
    (retirements : r'.retirements = r.retirements) : r'.Timed := by
  obtain ⟨active, slots, lastSwap, -⟩ := Renderer.fields_of_display display
  constructor
  · rw [retirements]
    exact timed.nodup
  · rw [retirements, lastSwap]
    exact timed.swap_le
  · rw [retirements]
    exact timed.generation_lt
  · rw [slots, active, lastSwap]
    exact timed.visible
  · rw [slots, active, lastSwap, retirements]
    exact timed.hidden

theorem swap (timed : r.Timed) (ord : r.Ordered) {op : RenderOperation}
    (underWay : op ∈ r.operations) (live : op.aborted = false) (view : Nat)
    (attached : List AttachedListener) : (r.swap op ⟨view, attached, op.id⟩).1.Timed := by
  obtain ⟨-, -, newer, target⟩ := ord.of_live underWay live
  let set : Retirement :=
    { swap := op.id
      slot := r.active
      generation := (r.slots.get r.active).map MountedView.generation
      due := r.now + transitionWindow }
  have pending : ∀ t ∈ r.retirements ++ [set], t ∈ r.retirements ∨ t = set := by
    intro t member
    rcases List.mem_append.mp member with earlier | now
    · exact .inl earlier
    · exact .inr (List.mem_singleton.mp now)
  constructor
  · change ((r.retirements ++ [set]).map Retirement.swap).Nodup
    rw [List.map_append]
    refine timed.nodup.append (List.nodup_singleton _) fun swap earlier now => ?_
    obtain ⟨t, member, rfl⟩ := List.mem_map.mp earlier
    have bound := timed.swap_le t member
    have same : t.swap = op.id := List.mem_singleton.mp now
    omega
  · intro t member
    change t.swap ≤ op.id
    rcases pending t member with earlier | rfl
    · have bound := timed.swap_le t earlier
      omega
    · exact Nat.le_refl _
  · intro t member generation about
    rcases pending t member with earlier | rfl
    · exact timed.generation_lt t earlier generation about
    · obtain ⟨displaced, mounted, rfl⟩ := Option.map_eq_some_iff.mp about
      change displaced.generation < op.id
      rw [timed.visible displaced mounted]
      exact newer
  · intro m mounted
    change (r.slots.set op.target _).get op.target = some m at mounted
    rw [Slots.get_set_self] at mounted
    cases mounted
    rfl
  · intro m mounted
    change (r.slots.set op.target _).get op.target.other = some m at mounted
    rw [Slots.get_set_other, target, Slot.other_other] at mounted
    refine ⟨set, List.mem_append_right _ (List.mem_singleton_self _), rfl, ?_, ?_⟩
    · change r.active = op.target.other
      rw [target, Slot.other_other]
    · change (r.slots.get r.active).map MountedView.generation = some m.generation
      rw [mounted]
      rfl

theorem retire (timed : r.Timed) {retirement : Retirement}
    (pending : retirement ∈ r.retirements) : (r.retire retirement).1.Timed := by
  have stays : ∀ t ∈ (r.retire retirement).1.retirements, t ∈ r.retirements :=
    fun t member => List.mem_of_mem_filter member
  have slots : ∀ slot m, (r.retire retirement).1.slots.get slot = some m →
      r.slots.get slot = some m ∧ (slot = retirement.slot → r.retired? retirement = none) := by
    intro slot m mounted
    rw [r.get_slots_retire] at mounted
    split at mounted
    · cases mounted
    next kept =>
      rw [not_and, Option.not_isSome_iff_eq_none] at kept
      exact ⟨mounted, kept⟩
  constructor
  · exact timed.nodup.sublist (List.filter_sublist.map _)
  · exact fun t member => timed.swap_le t (stays t member)
  · exact fun t member => timed.generation_lt t (stays t member)
  · exact fun m mounted => timed.visible m (slots _ m mounted).1
  · intro m mounted
    obtain ⟨wasMounted, untouched⟩ := slots _ m mounted
    obtain ⟨t, member, last, place, about⟩ := timed.hidden m wasMounted
    -- The retirement set for the view would have emptied its slot.
    have differs : t.swap ≠ retirement.swap := by
      intro same
      obtain rfl : t = retirement := List.inj_on_of_nodup_map timed.nodup member pending same
      have none := untouched place.symm
      have some : r.retired? t = some m := by
        refine Renderer.retired?_eq_some_iff.mpr ⟨?_, ?_, about⟩
        · rw [place]
          exact (Slot.other_ne _).symm
        · rw [place]
          exact wasMounted
      rw [none] at some
      cases some
    exact ⟨t, List.mem_filter.mpr ⟨member, by simpa using differs⟩, last, place, about⟩

/-- Every transition keeps the hidden view and its retirement together. -/
theorem transition {event : RenderEvent} {next : Renderer.Result} (timed : r.Timed)
    (ord : r.Ordered) (t : r.Transition event next) : next.1.Timed := by
  rcases t.display_cases with
    ⟨display, retirements⟩ | ⟨op, view, attached, underWay, live, -, -, rfl⟩ |
      ⟨retirement, pending, -, -, rfl⟩ | ⟨-, rfl⟩
  · exact timed.frame display retirements
  · exact timed.swap ord underWay live view attached
  · exact timed.retire pending
  · have empty : ∀ slot m, r.cleanUp.1.slots.get slot ≠ some m := by
      intro slot m mounted
      rw [r.get_slots_cleanUp] at mounted
      cases mounted
    exact ⟨timed.nodup, timed.swap_le, timed.generation_lt,
      fun m mounted => absurd mounted (empty _ m), fun m mounted => absurd mounted (empty _ m)⟩

theorem run (coordinator : Coordinator) (events : List RenderEvent) :
    ((Renderer.fresh coordinator).run events).1.Timed := by
  have both := Renderer.run_invariant (P := fun r => r.Ordered ∧ r.Timed)
    (fun inv t => ⟨inv.1.transition t, inv.2.transition inv.1 t⟩)
    ⟨.fresh coordinator, .fresh coordinator⟩ events
  exact both.2

end Renderer.Timed

/-! ## A view that has been displaced -/

/-- A view that a swap has displaced is still in its slot, and what is to retire
it is not due before the deadline. -/
structure Renderer.LivesOn (r : Renderer) (slot : Slot) (m : MountedView) (deadline : Nat) :
    Prop where
  hidden : r.active = slot.other
  mounted : r.slots.get slot = some m
  due : ∀ t ∈ r.retirements, t.generation = some m.generation → deadline ≤ t.due

/-- A swap among the events makes the slot visible again. -/
def Renderer.Reuses (r : Renderer) (slot : Slot) (events : List RenderEvent) : Prop :=
  ∃ before event after, events = before ++ event :: after ∧
    (r.run before).1.swapped event ≠ [] ∧ ((r.run before).1.step event).1.active = slot

theorem Renderer.Reuses.append {r : Renderer} {slot : Slot} {events : List RenderEvent}
    (reuses : r.Reuses slot events) (more : List RenderEvent) : r.Reuses slot (events ++ more) := by
  obtain ⟨before, event, after, rfl, swap⟩ := reuses
  exact ⟨before, event, after ++ more, by simp, swap⟩

namespace Renderer.Ordered

variable {r : Renderer}

/-- Nothing but a cleanup empties the visible slot. -/
theorem get_active_step (ord : r.Ordered) (event : RenderEvent) (spares : event ≠ .cleanUp) :
    (r.step event).1.slots.get r.active = r.slots.get r.active := by
  rcases (r.transition_step event).display_cases with
    ⟨display, -⟩ | ⟨op, view, attached, underWay, live, -, -, next⟩ |
      ⟨retirement, -, -, -, next⟩ | ⟨cleanUp, -⟩
  · rw [(Renderer.fields_of_display display).2.1]
  · have active : r.active = op.target.other := by
      rw [(ord.of_live underWay live).2.2.2, Slot.other_other]
    rw [next, active]
    exact Slots.get_set_other _ _ _
  · rw [next, r.get_slots_retire, if_neg]
    rintro ⟨same, given⟩
    obtain ⟨m, stale⟩ := Option.isSome_iff_exists.mp given
    exact (Renderer.retired?_eq_some_iff.mp stale).1 same
  · exact absurd cleanUp spares

end Renderer.Ordered

namespace Renderer.LivesOn

variable {r : Renderer} {slot : Slot} {m : MountedView} {deadline : Nat}

/-- A view lives on after the swap that displaces it. -/
theorem of_swapped (timed : r.Timed) (ord : r.Ordered) {event : RenderEvent}
    (swapped : r.swapped event ≠ []) (visible : r.slots.get r.active = some m) :
    (r.step event).1.LivesOn r.active m (r.now + transitionWindow) := by
  rcases ord.swapped_cases event with ⟨none, -⟩ |
    ⟨op, underWay, live, -, -, view, attached, -, next⟩
  · exact absurd none swapped
  have target := (ord.of_live underWay live).2.2.2
  rw [next]
  constructor
  · exact target
  · change (r.slots.set op.target _).get r.active = some m
    rw [← r.active.other_other, ← target, Slots.get_set_other, target, Slot.other_other]
    exact visible
  · intro t member about
    rcases List.mem_append.mp member with earlier | now
    · -- An earlier retirement is about a view older than the one that was visible.
      have before := timed.generation_lt t earlier m.generation about
      have last := timed.swap_le t earlier
      rw [timed.visible m visible] at before
      omega
    · rw [List.mem_singleton.mp now]

/-- A displaced view lives on after an event, unless the deadline has passed, a
cleanup takes it, or a swap uses its slot again. -/
theorem step (lives : r.LivesOn slot m deadline) (ord : r.Ordered) (event : RenderEvent) :
    (r.step event).1.LivesOn slot m deadline ∨ deadline ≤ r.now ∨ event = .cleanUp ∨
      (r.swapped event ≠ [] ∧ (r.step event).1.active = slot) := by
  rcases (r.transition_step event).display_cases with
    ⟨display, retirements⟩ | ⟨op, view, attached, underWay, live, phase, rfl, next⟩ |
      ⟨retirement, pending, due, -, next⟩ | ⟨cleanUp, -⟩
  · left
    obtain ⟨active, slots, -⟩ := Renderer.fields_of_display display
    refine ⟨active.trans lives.hidden, ?_, ?_⟩
    · rw [slots]
      exact lives.mounted
    · rw [retirements]
      exact lives.due
  · right; right; right
    have swapped : op.id ∈ r.swapped (.commit op.id) :=
      ord.mem_swapped_iff.mpr ⟨rfl, op, underWay, rfl, live, view, attached, phase⟩
    refine ⟨List.ne_nil_of_mem swapped, ?_⟩
    rw [(ord.display_of_swapped swapped).2, lives.hidden, Slot.other_other]
  · by_cases given : slot = retirement.slot ∧ (r.retired? retirement).isSome
    · right; left
      obtain ⟨rfl, given⟩ := given
      obtain ⟨stale, isStale⟩ := Option.isSome_iff_exists.mp given
      obtain ⟨-, mounted, about⟩ := Renderer.retired?_eq_some_iff.mp isStale
      obtain rfl : m = stale := Option.some.inj (lives.mounted.symm.trans mounted)
      exact Nat.le_trans (lives.due retirement pending about) due
    · left
      rw [next]
      refine ⟨lives.hidden, ?_, fun t member => lives.due t (List.mem_of_mem_filter member)⟩
      rw [r.get_slots_retire, if_neg given]
      exact lives.mounted
  · exact .inr (.inr (.inl cleanUp))

end Renderer.LivesOn

theorem Renderer.Transition.now_le {r : Renderer} {event : RenderEvent} {next : Renderer.Result}
    (t : r.Transition event next) : r.now ≤ next.1.now := by
  cases t with
  | advance milliseconds => exact Nat.le_add_right _ _
  | _ => exact Nat.le_refl _

theorem Renderer.LivesOn.run {r : Renderer} {slot : Slot} {m : MountedView} {deadline : Nat}
    (lives : r.LivesOn slot m deadline) (ord : r.Ordered) (events : List RenderEvent) :
    (r.run events).1.LivesOn slot m deadline ∨ deadline ≤ (r.run events).1.now ∨
      .cleanUp ∈ events ∨ r.Reuses slot events := by
  induction events using List.reverseRecOn with
  | nil => exact .inl lives
  | append_singleton events event ih =>
    have ordNow : (r.run events).1.Ordered :=
      Renderer.run_invariant Renderer.Ordered.transition ord events
    have later := ((r.run events).1.transition_step event).now_le
    rw [r.run_concat]
    rcases ih with lives | passed | cleanUp | reuses
    · rcases lives.step ordNow event with lives | passed | rfl | ⟨swapped, active⟩
      · exact .inl lives
      · exact .inr (.inl (Nat.le_trans passed later))
      · exact .inr (.inr (.inl (by simp)))
      · exact .inr (.inr (.inr ⟨events, event, [], rfl, swapped, active⟩))
    · exact .inr (.inl (Nat.le_trans passed later))
    · exact .inr (.inr (.inl (List.mem_append_left _ cleanUp)))
    · exact .inr (.inr (.inr (reuses.append _)))

/-! ## The life of a view -/

theorem Renderer.mem_held_of_slot {r : Renderer} {slot : Slot} {m : MountedView}
    (mounted : r.slots.get slot = some m) : m ∈ r.held :=
  List.mem_append_left _ (Slots.mem_toList.mpr ⟨slot, mounted⟩)

theorem Ledger.finalize_notMem_step {r : Renderer} {seen : List RenderEffect}
    (led : Ledger r.held r.views seen) (ord : r.Ordered) {event : RenderEvent} {m : MountedView}
    (isHeld : m ∈ (r.step event).1.held) : .finalize m.view ∉ (r.step event).2 := by
  intro finalized
  have ledNext := led.transition ord (r.transition_step event)
  exact ledNext.finalize_notMem isHeld (List.mem_append_right _ finalized)

theorem Ledger.created_lt {held : List MountedView} {views : Nat} {seen : List RenderEffect}
    (led : Ledger held views seen) {operation view : Nat}
    (created : .created operation view ∈ seen) : view < views := by
  by_contra new
  have told : .created operation view ∈ seen.filter (RenderEffect.isAbout view) :=
    List.mem_filter.mpr ⟨created, by simp [RenderEffect.isAbout]⟩
  rw [led.story_new view (by omega)] at told
  cases told

/-- A view that is held was made for the operation that its owner remembers. -/
theorem Ledger.created_mem {held : List MountedView} {views : Nat} {seen : List RenderEffect}
    (led : Ledger held views seen) {m : MountedView} (isHeld : m ∈ held) :
    .created m.generation m.view ∈ seen := by
  have story := (led.story_held m isHeld).2
  have opened : .created m.generation m.view ∈ m.opening := List.mem_cons_self
  rw [← story] at opened
  exact List.mem_of_mem_filter opened

/-- **Every view is given up once, and in time.** After every run, no view has been
finalized twice; before its finalization every listener that was attached to it
was removed, and nothing happens to it afterwards. The visible view is finalized
by a cleanup only. A view that a swap displaces is not finalized before the
transition is over, unless a later swap uses its slot again or a cleanup comes
in between. Once nothing is under way and no retirement is to come, the hidden
slot is empty, and every view that was ever made, but the visible one, has been
finalized exactly once. -/
theorem Renderer.views_given_up_once (coordinator : Coordinator) (events : List RenderEvent) :
    let reached := (Renderer.fresh coordinator).run events
    let r := reached.1
    let seen := reached.2
    (∀ view, seen.countP (RenderEffect.isFinalize view) ≤ 1) ∧
    (∀ view before after, seen = before ++ .finalize view :: after →
      (∃ (operation : Nat) (attached : List AttachedListener),
        before.filter (RenderEffect.isAbout view) = .created operation view ::
          (attached.map (.listen view) ++ attached.map (.unlisten view))) ∧
      after.filter (RenderEffect.isAbout view) = []) ∧
    (∀ view, r.visible? = some view → .finalize view ∉ seen ∧
      ∀ event, event ≠ .cleanUp → .finalize view ∉ (r.step event).2) ∧
    (∀ view event, r.visible? = some view → r.swapped event ≠ [] → ∀ later last,
      let s := ((r.step event).1.run later).1
      .finalize view ∈ (s.step last).2 → r.now + transitionWindow ≤ s.now ∨
        .cleanUp ∈ later ++ [last] ∨ (r.step event).1.Reuses r.active (later ++ [last])) ∧
    (r.operations = [] → r.retirements = [] → r.slots.get r.active.other = none ∧
      ∀ operation view, .created operation view ∈ seen → r.visible? ≠ some view →
        seen.countP (RenderEffect.isFinalize view) = 1) := by
  intro reached r seen
  have ord : r.Ordered := .run coordinator events
  have timed : r.Timed := .run coordinator events
  have led : Ledger r.held r.views seen := .run coordinator events
  refine ⟨led.countP_isFinalize_le, fun view before after => led.story_around_finalize, ?_, ?_, ?_⟩
  · intro view visible
    obtain ⟨m, mounted, rfl⟩ := Option.map_eq_some_iff.mp visible
    refine ⟨led.finalize_notMem (r.mem_held_of_slot mounted), fun event spares => ?_⟩
    have stays := (ord.get_active_step event spares).trans mounted
    exact led.finalize_notMem_step ord (Renderer.mem_held_of_slot stays)
  · intro view event visible swapped later last s finalized
    obtain ⟨m, mounted, rfl⟩ := Option.map_eq_some_iff.mp visible
    have ordNext : (r.step event).1.Ordered := ord.transition (r.transition_step event)
    have ordLater : s.Ordered := Renderer.run_invariant Renderer.Ordered.transition ordNext later
    have lives := Renderer.LivesOn.of_swapped timed ord swapped mounted
    rcases lives.run ordNext later with lives | passed | cleanUp | reuses
    · rcases lives.step ordLater last with lives | passed | rfl | ⟨swapped, active⟩
      · -- The view would still be held after the step that finalizes it.
        have whole : ((Renderer.fresh coordinator).run (events ++ event :: later)).1 = s := by
          rw [Renderer.run_append_fst, Renderer.run_cons_fst]
        have ledLater := Ledger.run coordinator (events ++ event :: later)
        dsimp only at ledLater
        rw [whole] at ledLater
        exact absurd finalized
          (ledLater.finalize_notMem_step ordLater (Renderer.mem_held_of_slot lives.mounted))
      · exact .inl passed
      · exact .inr (.inl (by simp))
      · exact .inr (.inr ⟨later, last, [], rfl, swapped, active⟩)
    · exact .inl passed
    · exact .inr (.inl (List.mem_append_left _ cleanUp))
    · exact .inr (.inr (reuses.append _))
  · intro noOperation noRetirement
    have hidden : r.slots.get r.active.other = none := by
      by_contra occupied
      obtain ⟨m, mounted⟩ := Option.ne_none_iff_exists'.mp occupied
      obtain ⟨t, pending, -⟩ := timed.hidden m mounted
      rw [noRetirement] at pending
      cases pending
    refine ⟨hidden, fun operation view created notVisible => ?_⟩
    refine led.countP_isFinalize_of_gone (led.created_lt created) fun listed => notVisible ?_
    obtain ⟨m, isHeld, rfl⟩ := List.mem_map.mp listed
    simp only [Renderer.held, noOperation, List.filterMap_nil, List.append_nil] at isHeld
    obtain ⟨slot, mounted⟩ := Slots.mem_toList.mp isHeld
    rcases r.active.eq_or_eq_other slot with rfl | rfl
    · exact Option.map_eq_some_iff.mpr ⟨m, mounted, rfl⟩
    · rw [hidden] at mounted
      cases mounted

/-- Two requests, one after the other: whatever follows, the view that the second
one displaces is not finalized before its time, and once both transitions are
over it has been finalized once. -/
theorem Renderer.displaced_view_given_up :
    let start := Renderer.fresh { config := {}, schema := .empty }
    let events : List RenderEvent := [.request (.task 0) { document := .bool true },
      .embedded 1 true, .resume 1, .attach 1, .commit 1,
      .request (.task 1) { document := .bool false }, .embedded 2 true, .resume 2, .attach 2]
    let r := (start.run events).1
    let shown := (r.step (.commit 2)).1
    let rest : List RenderEvent := [.commit 2, .advance 300, .expire 1, .expire 2]
    let ended := start.run (events ++ rest)
    r.visible? = some 0 ∧ shown.visible? = some 1 ∧
      (∀ later last,
        let s := (shown.run later).1
        .finalize 0 ∈ (s.step last).2 → r.now + transitionWindow ≤ s.now ∨
          .cleanUp ∈ later ++ [last] ∨ shown.Reuses r.active (later ++ [last])) ∧
      ended.1.visible? = some 1 ∧ ended.2.countP (RenderEffect.isFinalize 0) = 1 := by
  intro start events r shown rest ended
  have during := Renderer.views_given_up_once { config := {}, schema := .empty } events
  have after := Renderer.views_given_up_once { config := {}, schema := .empty } (events ++ rest)
  have inTime := during.2.2.2.1 0 (.commit 2) (by decide) (by decide)
  refine ⟨by decide, by decide, fun later last finalized => ?_, by decide, ?_⟩
  · rcases inTime later last finalized with passed | cleanUp | reuses
    · exact .inl passed
    · exact .inr (.inl cleanUp)
    · exact .inr (.inr reuses)
  · exact (after.2.2.2.2 rfl (by decide)).2 1 0 (.tail _ (.head _)) (by decide)

end ChartCompiler
