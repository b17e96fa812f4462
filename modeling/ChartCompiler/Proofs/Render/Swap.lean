import Mathlib
import ChartCompiler.Proofs.Render.Current

/-!
Swaps: the events at which a view becomes visible. `Renderer.swapped` reads a
swap off the slots before and after an event, and `Renderer.swaps` gathers the
operations that become visible in a run. Only the current operation can swap, so
the numbers of the operations that swap only grow, and an operation that has been
aborted stays without any effect on the display for the rest of the run.
-/

namespace ChartCompiler

/-! ## Swaps of a run -/

/-- The operations whose views are mounted at an event. -/
def Renderer.swapped (r : Renderer) (event : RenderEvent) : List Nat :=
  ((r.step event).1.slots.toList.filter fun m => m ∉ r.slots.toList).map MountedView.generation

/-- The operations that become visible in a run, in the order of their swaps. -/
def Renderer.swaps (r : Renderer) (events : List RenderEvent) : List Nat :=
  r.gather Renderer.swapped events

theorem Renderer.swapped_eq_nil {r : Renderer} {event : RenderEvent}
    (known : ∀ m ∈ (r.step event).1.slots.toList, m ∈ r.slots.toList) : r.swapped event = [] := by
  simpa [Renderer.swapped, List.filter_eq_nil_iff] using known

/-- Mounting a view that was not there adds exactly this view. -/
theorem Slots.filter_toList_set {slots : Slots} (slot : Slot) {m : MountedView}
    (new : m ∉ slots.toList) :
    ((slots.set slot (some m)).toList.filter fun held => held ∉ slots.toList) = [m] := by
  have known : ∀ place, ((slots.get place).toList.filter fun held => held ∉ slots.toList) = [] := by
    intro place
    simp only [List.filter_eq_nil_iff, decide_eq_true_eq, not_not, Option.mem_toList]
    intro held here
    exact Slots.mem_toList.mpr ⟨place, here⟩
  cases slot with
  | a =>
    change ([m] ++ (slots.get .b).toList).filter _ = [m]
    rw [List.filter_append, known, List.filter_singleton]
    simp [new]
  | b =>
    change ((slots.get .a).toList ++ [m]).filter _ = [m]
    rw [List.filter_append, known, List.filter_singleton]
    simp [new]

namespace Renderer.Ordered

variable {r : Renderer}

theorem operation?_eq (ord : r.Ordered) {op : RenderOperation} (underWay : op ∈ r.operations) :
    r.operation? op.id = some op := by
  have found : (r.operation? op.id).isSome := by
    simp only [Renderer.operation?, List.find?_isSome, decide_eq_true_eq]
    exact ⟨op, underWay, rfl⟩
  obtain ⟨other, found⟩ := Option.isSome_iff_exists.mp found
  obtain ⟨otherUnderWay, same⟩ := r.mem_of_operation? found
  rw [found, ord.eq_of_id otherUnderWay underWay same]

theorem step_eq (ord : r.Ordered) {op : RenderOperation} (underWay : op ∈ r.operations)
    (event : RenderEvent) (concerns : event.operation? = some op.id) :
    r.step event = r.stepOperation op event :=
  Renderer.step_of_operation? concerns (ord.operation?_eq underWay)

theorem step_commit (ord : r.Ordered) {op : RenderOperation} {view : Nat}
    {attached : List AttachedListener} (underWay : op ∈ r.operations) (live : op.aborted = false)
    (phase : op.phase = .attaching view attached []) :
    r.step (.commit op.id) = r.swap op ⟨view, attached, op.id⟩ := by
  rw [ord.step_eq underWay (.commit op.id) rfl]
  simp only [Renderer.stepOperation, phase, Renderer.commit, live, Bool.false_eq_true, if_false]

/-- The view of an operation that may still swap is not mounted yet. -/
theorem notMem_slots (ord : r.Ordered) {op : RenderOperation} (underWay : op ∈ r.operations)
    (live : op.aborted = false) (view : Nat) (attached : List AttachedListener) :
    MountedView.mk view attached op.id ∉ r.slots.toList := by
  intro mounted
  have older : op.id ≤ r.lastSwap := ord.generation_le _ mounted
  have newer := (ord.of_live underWay live).2.2.1
  omega

/-- A step swaps nothing, or it is the commit of an operation that is not aborted. -/
theorem swapped_cases (ord : r.Ordered) (event : RenderEvent) :
    (r.swapped event = [] ∧ (r.step event).1.active = r.active ∧
      (r.step event).1.lastSwap = r.lastSwap) ∨
    ∃ op ∈ r.operations, op.aborted = false ∧ event = .commit op.id ∧
      r.swapped event = [op.id] ∧ ∃ (view : Nat) (attached : List AttachedListener),
        op.phase = .attaching view attached [] ∧
        r.step event = r.swap op ⟨view, attached, op.id⟩ := by
  rcases (r.transition_step event).display_cases with
    ⟨display, -⟩ | ⟨op, view, attached, underWay, live, phase, rfl, next⟩ |
      ⟨retirement, -, -, -, next⟩ | ⟨rfl, next⟩
  · left
    obtain ⟨active, slots, lastSwap, -⟩ := Renderer.fields_of_display display
    exact ⟨r.swapped_eq_nil fun m mounted => slots ▸ mounted, active, lastSwap⟩
  · right
    have new := ord.notMem_slots underWay live view attached
    refine ⟨op, underWay, live, rfl, ?_, view, attached, phase, next⟩
    unfold Renderer.swapped
    rw [next]
    change List.map _ (((r.slots.set op.target _).toList).filter _) = [op.id]
    rw [Slots.filter_toList_set op.target new]
    rfl
  · left
    rw [next]
    refine ⟨r.swapped_eq_nil fun m mounted => ?_, rfl, rfl⟩
    rw [next] at mounted
    exact r.mem_slots_of_retire mounted
  · left
    rw [next]
    refine ⟨r.swapped_eq_nil fun m mounted => ?_, rfl, rfl⟩
    rw [next] at mounted
    cases mounted

theorem mem_swapped_iff (ord : r.Ordered) {event : RenderEvent} {id : Nat} :
    id ∈ r.swapped event ↔ event = .commit id ∧ ∃ op ∈ r.operations, op.id = id ∧
      op.aborted = false ∧ ∃ (view : Nat) (attached : List AttachedListener),
        op.phase = .attaching view attached [] := by
  constructor
  · intro swapped
    rcases ord.swapped_cases event with ⟨none, -, -⟩ |
      ⟨op, underWay, live, rfl, only, view, attached, phase, -⟩
    · rw [none] at swapped
      cases swapped
    · rw [only, List.mem_singleton] at swapped
      subst swapped
      exact ⟨rfl, op, underWay, rfl, live, view, attached, phase⟩
  · rintro ⟨rfl, op, underWay, rfl, live, view, attached, phase⟩
    rcases ord.swapped_cases (.commit op.id) with ⟨-, -, same⟩ | ⟨other, -, -, same, only, -⟩
    · rw [ord.step_commit underWay live phase] at same
      have newer := (ord.of_live underWay live).2.2.1
      change op.id = r.lastSwap at same
      omega
    · rw [only, RenderEvent.commit.inj same]
      exact List.mem_singleton_self _

/-- The operations that swap in a run are numbered upwards, and are newer than the
one that swapped last before it. -/
theorem swaps_pairwise (ord : r.Ordered) (events : List RenderEvent) :
    (r.swaps events).Pairwise (· < ·) ∧ ∀ id ∈ r.swaps events, r.lastSwap < id := by
  refine gather_pairwise id Renderer.lastSwap (fun {r} ord event => ?_) ord events
  rcases ord.swapped_cases event with ⟨none, -, same⟩ |
    ⟨op, underWay, live, -, only, view, attached, -, next⟩
  · exact .inl ⟨none, same⟩
  · exact .inr ⟨op.id, only, (ord.of_live underWay live).2.2.1, by rw [next]; rfl⟩

end Renderer.Ordered

/-! ## Aborted operations -/

/-- The operation with the number can no longer become visible: it is aborted, or
it has ended. -/
def Renderer.Spent (r : Renderer) (id : Nat) : Prop :=
  id ≤ r.counter ∧ ∀ op ∈ r.operations, op.id = id → op.aborted = true

namespace Renderer.Spent

variable {r : Renderer} {id : Nat}

theorem transition {event : RenderEvent} {next : Renderer.Result} (spent : r.Spent id)
    (t : r.Transition event next) : next.1.Spent id := by
  refine ⟨Nat.le_trans spent.1 t.counter_le, fun op underWay same => ?_⟩
  rcases t.origin underWay with ⟨old, wasUnderWay, continues⟩ | ⟨new, -⟩
  · exact continues.aborted (spent.2 old wasUnderWay (continues.id ▸ same))
  · have bound := spent.1
    omega

theorem run (spent : r.Spent id) (events : List RenderEvent) : (r.run events).1.Spent id :=
  Renderer.run_invariant (P := fun r => r.Spent id) transition spent events

theorem notMem_swapped (spent : r.Spent id) (ord : r.Ordered) (event : RenderEvent) :
    id ∉ r.swapped event := by
  intro swapped
  obtain ⟨-, op, underWay, same, live, -⟩ := ord.mem_swapped_iff.mp swapped
  rw [spent.2 op underWay same] at live
  cases live

theorem notMem_swaps (spent : r.Spent id) (ord : r.Ordered) (events : List RenderEvent) :
    id ∉ r.swaps events := by
  induction events generalizing r with
  | nil => exact List.not_mem_nil
  | cons event events ih =>
    intro member
    rcases List.mem_append.mp member with now | later
    · exact spent.notMem_swapped ord event now
    · exact ih (spent.transition (r.transition_step event))
        (ord.transition (r.transition_step event)) later

/-- What concerns a spent operation leaves the display alone. -/
theorem display_step (spent : r.Spent id) {event : RenderEvent}
    (concerns : event.operation? = some id) : (r.step event).1.display = r.display := by
  rcases (r.transition_step event).display_cases with
    ⟨same, -⟩ | ⟨op, view, attached, underWay, live, -, rfl, -⟩ | ⟨_, -, -, rfl, -⟩ | ⟨rfl, -⟩
  · exact same
  · rw [spent.2 op underWay (Option.some.inj concerns)] at live
    cases live
  · cases concerns
  · cases concerns

end Renderer.Spent

/-- A request that starts an operation, and a cleanup, leave every earlier
operation spent. -/
theorem Renderer.Ordered.spent_of_superseded {r : Renderer} (ord : r.Ordered)
    {event : RenderEvent}
    (superseded : event = .cleanUp ∨ r.counter < (r.step event).1.counter)
    {id : Nat} (earlier : id ≤ r.counter) : (r.step event).1.Spent id := by
  have t := r.transition_step event
  refine ⟨Nat.le_trans earlier t.counter_le, fun op underWay same => ?_⟩
  -- Either way the operation was aborted with the one that was current.
  rcases superseded with rfl | counted
  · exact ord.aborted_of_mem_abortCurrent underWay
  generalize r.step event = next at counted t underWay
  cases t with
  | start requester request _ =>
    rcases List.mem_append.mp underWay with older | new
    · exact ord.aborted_of_mem_abortCurrent older
    · rw [List.mem_singleton.mp new] at same
      change r.counter + 1 = id at same
      omega
  | _ => exact absurd counted (Nat.lt_irrefl _)

/-! ## Abort safety -/

/-- What a swap shows: the committing operation is the last to have swapped, and
the slot that was hidden is visible. -/
theorem Renderer.Ordered.display_of_swapped {r : Renderer} (ord : r.Ordered)
    {event : RenderEvent} {id : Nat} (swapped : id ∈ r.swapped event) :
    (r.step event).1.lastSwap = id ∧ (r.step event).1.active = r.active.other := by
  rcases ord.swapped_cases event with ⟨none, -, -⟩ |
    ⟨op, underWay, live, -, only, view, attached, -, next⟩
  · rw [none] at swapped
    cases swapped
  · rw [only, List.mem_singleton] at swapped
    rw [next, swapped, ← (ord.of_live underWay live).2.2.2]
    exact ⟨rfl, rfl⟩

theorem Renderer.Ordered.live_iff_current {r : Renderer} (ord : r.Ordered) {op : RenderOperation}
    (underWay : op ∈ r.operations) : op.aborted = false ↔ r.current = some op.id := by
  refine ⟨ord.current_of_live op underWay, fun current => ?_⟩
  obtain ⟨-, -, other, otherUnderWay, same, live, -⟩ := ord.live_of_current op.id current
  rw [← ord.eq_of_id otherUnderWay underWay same]
  exact live

/-- **Only the current operation becomes visible.** After every run, the operation
under way that is not aborted is the current one, the newest of all, and draws
into the hidden slot; no other operation swaps, and the numbers of those that
swap only grow. A newer operation or a cleanup aborts every earlier one, and
from then on an aborted operation leaves the display alone. -/
theorem Renderer.only_current_becomes_visible (coordinator : Coordinator)
    (events : List RenderEvent) :
    let start := Renderer.fresh coordinator
    let r := (start.run events).1
    (∀ op ∈ r.operations, (op.aborted = false ↔ r.current = some op.id)) ∧
    (∀ op ∈ r.operations, op.aborted = false →
      op.id = r.counter ∧ op.target = r.active.other ∧
        ∀ other ∈ r.operations, other.aborted = false → other = op) ∧
    (∀ event id, id ∈ r.swapped event ↔ event = .commit id ∧ r.current = some id ∧
      ∃ op ∈ r.operations, op.id = id ∧ op.aborted = false ∧
        ∃ (view : Nat) (attached : List AttachedListener),
          op.phase = .attaching view attached []) ∧
    (∀ event, ∀ id ∈ r.swapped event,
      (r.step event).1.lastSwap = id ∧ (r.step event).1.active = r.active.other) ∧
    (∀ event, r.swapped event = [] →
      (r.step event).1.active = r.active ∧ (r.step event).1.lastSwap = r.lastSwap) ∧
    (start.swaps events).Pairwise (· < ·) ∧
    (∀ event, event = .cleanUp ∨ r.counter < (r.step event).1.counter →
      ∀ op ∈ (r.step event).1.operations, op.id ≤ r.counter → op.aborted = true) ∧
    (∀ op ∈ r.operations, op.aborted = true → ∀ later,
      op.id ∉ r.swaps later ∧ ∀ event, event.operation? = some op.id →
        ((r.run later).1.step event).1.display = (r.run later).1.display) := by
  intro start r
  have ord : r.Ordered := .run coordinator events
  refine ⟨fun op underWay => ord.live_iff_current underWay, ?_, ?_,
    fun event id swapped => ord.display_of_swapped swapped, ?_,
    ((Renderer.Ordered.fresh coordinator).swaps_pairwise events).1, ?_, ?_⟩
  · intro op underWay live
    obtain ⟨current, newest, -, target⟩ := ord.of_live underWay live
    refine ⟨newest, target, fun other otherUnderWay otherLive => ?_⟩
    have otherNewest := (ord.of_live otherUnderWay otherLive).2.1
    exact ord.eq_of_id otherUnderWay underWay (otherNewest.trans newest.symm)
  · intro event id
    rw [ord.mem_swapped_iff]
    constructor
    · rintro ⟨rfl, op, underWay, rfl, live, phase⟩
      exact ⟨rfl, (ord.of_live underWay live).1, op, underWay, rfl, live, phase⟩
    · rintro ⟨rfl, -, found⟩
      exact ⟨rfl, found⟩
  · intro event none
    rcases ord.swapped_cases event with ⟨-, active, lastSwap⟩ | ⟨op, -, -, -, only, -⟩
    · exact ⟨active, lastSwap⟩
    · rw [only] at none
      cases none
  · intro event superseded op underWay earlier
    exact (ord.spent_of_superseded superseded earlier).2 op underWay rfl
  · intro op underWay aborted later
    have spent : r.Spent op.id := by
      refine ⟨ord.le_counter op underWay, fun other otherUnderWay same => ?_⟩
      rw [ord.eq_of_id otherUnderWay underWay same]
      exact aborted
    exact ⟨spent.notMem_swaps ord later, fun event => (spent.run later).display_step⟩

/-- Two requests, of which the second overtakes the first: the first operation is
aborted and still under way, and whatever follows it never becomes visible. -/
theorem Renderer.overtaken_stays_hidden :
    let start := Renderer.fresh { config := {}, schema := .empty }
    let r := (start.run [.request (.task 0) { document := .bool true },
      .request (.task 1) { document := .bool false }]).1
    r.operations.map (fun op => (op.id, op.aborted)) = [(1, true), (2, false)] ∧
      ∀ later, 1 ∉ r.swaps later := by
  refine ⟨rfl, fun later => ?_⟩
  have safety := Renderer.only_current_becomes_visible { config := {}, schema := .empty }
    [.request (.task 0) { document := .bool true }, .request (.task 1) { document := .bool false }]
  exact (safety.2.2.2.2.2.2.2 _ (.head _) rfl later).1

end ChartCompiler
