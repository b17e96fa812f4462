import Mathlib
import ChartCompiler.Render.Renderer

/-!
What one event can do to a renderer. `Renderer.step` finds an operation by its
number and then looks at its phase and at its mark; `Renderer.Transition` has one
rule for each way through it, with what was found on the way as premises.
`Renderer.transition_step` places every step under a rule, so what holds along
every run is proved rule by rule, without opening the step function again.

The rules fall into two kinds. Most of them move operations and leave everything
that is on display alone; `Renderer.Transition.display_cases` names the three
that do not: a swap, the retirement of a displaced view, and a cleanup.
-/

namespace ChartCompiler

/-! ## Operations and events -/

/-- The view that an operation holds, as it would be mounted. -/
def RenderOperation.held? (op : RenderOperation) : Option MountedView :=
  match op.phase with
  | .embedding => none
  | .embedded view => some ⟨view, [], op.id⟩
  | .attaching view attached _ => some ⟨view, attached, op.id⟩

/-- The operation that an event concerns. -/
def RenderEvent.operation? : RenderEvent → Option Nat
  | .embedded id _ | .resume id | .attach id | .commit id => some id
  | _ => none

/-- An event that names an operation or a swap, which may be over. -/
def RenderEvent.mayMiss : RenderEvent → Bool
  | .embedded .. | .resume _ | .attach _ | .commit _ | .expire _ => true
  | _ => false

/-- An event of a view, which reaches the coordinator and nothing else. -/
def RenderEvent.isReport : RenderEvent → Bool
  | .click .. | .brush .. => true
  | _ => false

theorem RenderEvent.mayMiss_of_operation? {event : RenderEvent} {id : Nat}
    (concerns : event.operation? = some id) : event.mayMiss = true := by
  cases event <;> first | rfl | cases concerns

theorem Renderer.mem_of_operation? {r : Renderer} {id : Nat} {op : RenderOperation}
    (found : r.operation? id = some op) : op ∈ r.operations ∧ op.id = id :=
  ⟨List.mem_of_find?_eq_some found, by simpa using List.find?_some found⟩

/-! ## Transitions -/

/-- A renderer in which a request has started an operation on the hidden slot. -/
def Renderer.start (r : Renderer) (requester : Requester) (request : RenderRequest) : Renderer :=
  { r.abortCurrent with
    current := some (r.counter + 1)
    counter := r.counter + 1
    operations := r.abortCurrent.operations ++
      [{ id := r.counter + 1, target := r.active.other, requester, request }] }

/-- What an event can do, with one rule for each way through a step. -/
inductive Renderer.Transition (r : Renderer) : RenderEvent → Renderer.Result → Prop
  /-- the event does not fit -/
  | idle {event : RenderEvent} : event.mayMiss = true → r.Transition event (r, [])
  | advance (milliseconds : Nat) :
    r.Transition (.advance milliseconds) ({ r with now := r.now + milliseconds }, [])
  | report {event : RenderEvent} (coordinator : Coordinator) (calls : List InteractionCall) :
    event.isReport = true → coordinator.config = r.coordinator.config →
    r.Transition event ({ r with coordinator }, calls.map .interaction)
  | unchanged (requester : Requester) (request : RenderRequest) :
    request.force = false → r.fingerprint = some request.document.compact →
    r.Transition (.request requester request) (r, [.answered requester .unchanged])
  | start (requester : Requester) (request : RenderRequest) :
    (request.force = false → r.fingerprint ≠ some request.document.compact) →
    r.Transition (.request requester request)
      (r.start requester request,
        [.embed (r.counter + 1) r.active.other request.document request.theme])
  | fail {op : RenderOperation} : op ∈ r.operations → op.phase = .embedding →
    r.Transition (.embedded op.id false) (r.finish op .failed)
  | create {op : RenderOperation} : op ∈ r.operations → op.phase = .embedding →
    op.aborted = false →
    r.Transition (.embedded op.id true)
      ({ r with views := r.views + 1 }.setPhase op.id (.embedded r.views),
        [.created op.id r.views])
  /-- the view comes too late and is given up at once -/
  | createAborted {op : RenderOperation} : op ∈ r.operations → op.phase = .embedding →
    op.aborted = true →
    r.Transition (.embedded op.id true)
      (({ r with views := r.views + 1 }.finish op .aborted).1,
        .created op.id r.views ::
          ((MountedView.mk r.views [] op.id).dispose ++ [.answered op.requester .aborted]))
  | resume {op : RenderOperation} {view : Nat} : op ∈ r.operations → op.phase = .embedded view →
    op.aborted = false →
    r.Transition (.resume op.id)
      (r.setPhase op.id
        (.attaching view [] (listenerPlan op.request.config op.request.mobile)), [])
  | attach {op : RenderOperation} {view : Nat} {attached : List AttachedListener}
      {listener : Listener} {missing : List Listener} : op ∈ r.operations →
    op.phase = .attaching view attached (listener :: missing) →
    r.Transition (.attach op.id)
      (r.setPhase op.id (.attaching view (attached ++ [⟨listener, attached.length⟩]) missing),
        [.listen view ⟨listener, attached.length⟩])
  /-- an operation that holds a view sees its mark -/
  | discard {event : RenderEvent} {op : RenderOperation} {view : Nat}
      {attached : List AttachedListener} : op ∈ r.operations →
    event.operation? = some op.id → op.aborted = true →
    op.held? = some ⟨view, attached, op.id⟩ →
    r.Transition event (r.discard op view attached)
  | swap {op : RenderOperation} {view : Nat} {attached : List AttachedListener} :
    op ∈ r.operations → op.aborted = false → op.phase = .attaching view attached [] →
    r.Transition (.commit op.id) (r.swap op ⟨view, attached, op.id⟩)
  | retire {retirement : Retirement} : retirement ∈ r.retirements → retirement.due ≤ r.now →
    r.Transition (.expire retirement.swap) (r.retire retirement)
  | cleanUp : r.Transition .cleanUp r.cleanUp

/-- Reports change the coordinator only, and leave its configuration. -/
theorem Renderer.report_eq (r : Renderer) (told : List Listener)
    (answer : Coordinator → Coordinator × List InteractionCall)
    (keeps : ∀ c, (answer c).1.config = c.config) :
    ∃ (coordinator : Coordinator) (calls : List InteractionCall),
      coordinator.config = r.coordinator.config ∧
      r.report told answer = ({ r with coordinator }, calls.map .interaction) := by
  -- The fold is generalized over the effects gathered so far, all of them calls.
  suffices general : ∀ (told : List Listener) (c : Coordinator) (sofar : List InteractionCall),
      c.config = r.coordinator.config →
      ∃ (coordinator : Coordinator) (calls : List InteractionCall),
        coordinator.config = r.coordinator.config ∧
        told.foldl (fun (x : Renderer.Result) _ =>
          ({ x.1 with coordinator := (answer x.1.coordinator).1 },
            x.2 ++ (answer x.1.coordinator).2.map RenderEffect.interaction))
          ({ r with coordinator := c }, sofar.map .interaction) =
        ({ r with coordinator }, calls.map .interaction) by
    exact general told r.coordinator [] rfl
  intro told
  induction told with
  | nil => intro c sofar same; exact ⟨c, sofar, same, rfl⟩
  | cons listener told ih =>
    intro c sofar same
    obtain ⟨coordinator, calls, config, folded⟩ :=
      ih (answer c).1 (sofar ++ (answer c).2) ((keeps c).trans same)
    refine ⟨coordinator, calls, config, ?_⟩
    rw [List.foldl_cons, ← folded, List.map_append]

theorem Renderer.transition_report (r : Renderer) {event : RenderEvent}
    (isReport : event.isReport = true) (told : List Listener)
    {answer : Coordinator → Coordinator × List InteractionCall}
    (keeps : ∀ c, (answer c).1.config = c.config) : r.Transition event (r.report told answer) := by
  obtain ⟨coordinator, calls, config, reported⟩ := r.report_eq told answer keeps
  rw [reported]
  exact .report coordinator calls isReport config

theorem Coordinator.click_config (c : Coordinator) (now : Nat) (shift : Bool)
    (datum : Option Row) : (c.click now shift datum).1.config = c.config := by
  cases datum <;> rfl

theorem Coordinator.brush_config (c : Coordinator) (now : Nat) (range : Json) :
    (c.brush now range).1.config = c.config := by
  unfold Coordinator.brush
  repeat' split
  all_goals rfl

theorem Renderer.transition_stepOperation {r : Renderer} {op : RenderOperation}
    {event : RenderEvent} (underWay : op ∈ r.operations)
    (concerns : event.operation? = some op.id) : r.Transition event (r.stepOperation op event) := by
  have mayMiss := RenderEvent.mayMiss_of_operation? concerns
  unfold Renderer.stepOperation
  split
  next id success phase =>
    obtain rfl : id = op.id := Option.some.inj concerns
    cases success with
    | false => exact .fail underWay phase
    | true =>
      by_cases aborted : op.aborted = true
      · simpa [Renderer.embedded, Renderer.discard, Renderer.finish, aborted] using
          Renderer.Transition.createAborted underWay phase aborted
      · simpa [Renderer.embedded, aborted] using
          Renderer.Transition.create underWay phase (Bool.eq_false_iff.mpr aborted)
  next id view phase =>
    obtain rfl : id = op.id := Option.some.inj concerns
    unfold Renderer.resume
    split
    next aborted => exact .discard underWay rfl aborted (by simp [RenderOperation.held?, phase])
    next live => exact .resume underWay phase (Bool.eq_false_iff.mpr live)
  next id view attached listener missing phase =>
    obtain rfl : id = op.id := Option.some.inj concerns
    exact .attach underWay phase
  next id view attached phase =>
    obtain rfl : id = op.id := Option.some.inj concerns
    unfold Renderer.commit
    split
    next aborted => exact .discard underWay rfl aborted (by simp [RenderOperation.held?, phase])
    next live => exact .swap underWay (Bool.eq_false_iff.mpr live) phase
  next => exact .idle mayMiss

theorem Renderer.step_of_operation? {r : Renderer} {event : RenderEvent} {id : Nat}
    {op : RenderOperation} (concerns : event.operation? = some id)
    (found : r.operation? id = some op) : r.step event = r.stepOperation op event := by
  cases event with
  | embedded _ _ | resume _ | attach _ | commit _ =>
    obtain rfl := Option.some.inj concerns
    simp only [Renderer.step, found]
  | _ => cases concerns

theorem Renderer.step_of_operation?_none {r : Renderer} {event : RenderEvent} {id : Nat}
    (concerns : event.operation? = some id) (ended : r.operation? id = none) :
    r.step event = (r, []) := by
  cases event with
  | embedded _ _ | resume _ | attach _ | commit _ =>
    obtain rfl := Option.some.inj concerns
    simp only [Renderer.step, ended]
  | _ => cases concerns

/-- A request that is not forced and asks for the text that is remembered is
answered at once; every other request starts an operation. -/
theorem Renderer.step_request (r : Renderer) (requester : Requester) (request : RenderRequest) :
    (request.force = false ∧ r.fingerprint = some request.document.compact ∧
      r.step (.request requester request) = (r, [.answered requester .unchanged])) ∨
    ((request.force = false → r.fingerprint ≠ some request.document.compact) ∧
      r.step (.request requester request) = (r.start requester request,
        [.embed (r.counter + 1) r.active.other request.document request.theme])) := by
  change _ ∧ _ ∧ r.request requester request = _ ∨ _ ∧ r.request requester request = _
  unfold Renderer.request
  split
  next same =>
    simp only [Bool.and_eq_true, Bool.not_eq_true', decide_eq_true_eq] at same
    exact .inl ⟨same.1, same.2, rfl⟩
  next other =>
    refine .inr ⟨fun unforced same => other ?_, rfl⟩
    simp [unforced, same]

/-- Every step follows one of the rules. -/
theorem Renderer.transition_step (r : Renderer) (event : RenderEvent) :
    r.Transition event (r.step event) := by
  have concerned : ∀ id, event.operation? = some id → r.Transition event (r.step event) := by
    intro id concerns
    cases found : r.operation? id with
    | some op =>
      obtain ⟨underWay, rfl⟩ := r.mem_of_operation? found
      rw [Renderer.step_of_operation? concerns found]
      exact r.transition_stepOperation underWay concerns
    | none =>
      rw [Renderer.step_of_operation?_none concerns found]
      exact .idle (RenderEvent.mayMiss_of_operation? concerns)
  cases event with
  | request requester request =>
    rcases r.step_request requester request with ⟨unforced, same, next⟩ | ⟨other, next⟩
    · rw [next]
      exact .unchanged requester request unforced same
    · rw [next]
      exact .start requester request other
  | embedded id success => exact concerned id rfl
  | resume id => exact concerned id rfl
  | attach id => exact concerned id rfl
  | commit id => exact concerned id rfl
  | expire swap =>
    unfold Renderer.step
    dsimp only
    split
    next retirement found =>
      have due := List.find?_some found
      simp only [Bool.and_eq_true, decide_eq_true_eq] at due
      obtain ⟨rfl, due⟩ := due
      exact .retire (List.mem_of_find?_eq_some found) due
    next => exact .idle rfl
  | cleanUp => exact .cleanUp
  | advance milliseconds => exact .advance milliseconds
  | click view shift datum =>
    change r.Transition _ (r.click view shift datum)
    unfold Renderer.click
    exact r.transition_report rfl _ fun c => c.click_config _ _ _
  | brush view range =>
    change r.Transition _ (r.brush view range)
    unfold Renderer.brush
    exact r.transition_report rfl _ fun c => c.brush_config _ _

/-! ## What is on display -/

/-- What of a renderer can be seen or decides what is seen next. -/
structure Renderer.Display where
  active : Slot
  transitioning : Bool
  slots : Slots
  lastSwap : Nat
  fingerprint : Option String
  config : ChartConfig

def Renderer.display (r : Renderer) : Renderer.Display :=
  ⟨r.active, r.transitioning, r.slots, r.lastSwap, r.fingerprint, r.coordinator.config⟩

theorem Renderer.fields_of_display {r r' : Renderer} (same : r'.display = r.display) :
    r'.active = r.active ∧ r'.slots = r.slots ∧ r'.lastSwap = r.lastSwap ∧
      r'.fingerprint = r.fingerprint ∧ r'.coordinator.config = r.coordinator.config := by
  simp only [Renderer.display, Renderer.Display.mk.injEq] at same
  obtain ⟨active, -, slots, lastSwap, fingerprint, config⟩ := same
  exact ⟨active, slots, lastSwap, fingerprint, config⟩

/-- A transition leaves the display and the retirements to come alone, or it is
a swap, a retirement or a cleanup. -/
theorem Renderer.Transition.display_cases {r : Renderer} {event : RenderEvent}
    {next : Renderer.Result} (t : r.Transition event next) :
    (next.1.display = r.display ∧ next.1.retirements = r.retirements) ∨
    (∃ (op : RenderOperation) (view : Nat) (attached : List AttachedListener),
      op ∈ r.operations ∧ op.aborted = false ∧ op.phase = .attaching view attached [] ∧
      event = .commit op.id ∧ next = r.swap op ⟨view, attached, op.id⟩) ∨
    (∃ retirement ∈ r.retirements, retirement.due ≤ r.now ∧
      event = .expire retirement.swap ∧ next = r.retire retirement) ∨
    (event = .cleanUp ∧ next = r.cleanUp) := by
  cases t with
  | report coordinator calls _ config =>
    exact .inl ⟨by simp only [Renderer.display, config], rfl⟩
  | swap underWay live phase => exact .inr (.inl ⟨_, _, _, underWay, live, phase, rfl, rfl⟩)
  | retire pending due => exact .inr (.inr (.inl ⟨_, pending, due, rfl, rfl⟩))
  | cleanUp => exact .inr (.inr (.inr ⟨rfl, rfl⟩))
  | _ => exact .inl ⟨rfl, rfl⟩

/-! ## Runs -/

/-- A renderer before its first event. -/
def Renderer.fresh (coordinator : Coordinator) : Renderer :=
  { coordinator }

@[simp] theorem Renderer.run_nil (r : Renderer) : r.run [] = (r, []) :=
  rfl

theorem Renderer.run_concat (r : Renderer) (events : List RenderEvent) (event : RenderEvent) :
    r.run (events ++ [event]) =
      (((r.run events).1.step event).1, (r.run events).2 ++ ((r.run events).1.step event).2) := by
  simp only [Renderer.run, List.foldl_append, List.foldl_cons, List.foldl_nil]

theorem Renderer.run_append_fst (r : Renderer) (xs ys : List RenderEvent) :
    (r.run (xs ++ ys)).1 = ((r.run xs).1.run ys).1 := by
  induction ys using List.reverseRecOn with
  | nil => simp
  | append_singleton ys event ih => rw [← List.append_assoc, run_concat, run_concat, ih]

@[simp] theorem Renderer.run_cons_fst (r : Renderer) (event : RenderEvent)
    (events : List RenderEvent) : (r.run (event :: events)).1 = ((r.step event).1.run events).1 :=
  r.run_append_fst [event] events

/-- What holds at the start and is kept by every step holds of every run. The
statement may speak of the events so far and of what was seen of them. -/
theorem Renderer.run_induction {start : Renderer}
    {P : List RenderEvent → Renderer → List RenderEffect → Prop} (initially : P [] start [])
    (kept : ∀ events r seen event, P events r seen →
      P (events ++ [event]) (r.step event).1 (seen ++ (r.step event).2))
    (events : List RenderEvent) : P events (start.run events).1 (start.run events).2 := by
  induction events using List.reverseRecOn with
  | nil => exact initially
  | append_singleton events event ih =>
    rw [run_concat]
    exact kept events _ _ event ih

/-- An invariant of the transitions holds of every run that starts in it. -/
theorem Renderer.run_invariant {P : Renderer → Prop}
    (kept : ∀ {r : Renderer} {event : RenderEvent} {next : Renderer.Result},
      P r → r.Transition event next → P next.1)
    {start : Renderer} (initially : P start) (events : List RenderEvent) :
    P (start.run events).1 :=
  Renderer.run_induction (P := fun _ r _ => P r) initially
    (fun _ r _ event inv => kept inv (r.transition_step event)) events

/-- What the events of a run bring, one after the other, where `brings` tells what
an event brings to a renderer. -/
def Renderer.gather {α : Type} (brings : Renderer → RenderEvent → List α) (r : Renderer) :
    List RenderEvent → List α
  | [] => []
  | event :: events => brings r event ++ gather brings (r.step event).1 events

theorem Renderer.gather_concat {α : Type} (brings : Renderer → RenderEvent → List α) (r : Renderer)
    (events : List RenderEvent) (event : RenderEvent) :
    r.gather brings (events ++ [event]) =
      r.gather brings events ++ brings (r.run events).1 event := by
  induction events generalizing r with
  | nil => exact List.append_nil _
  | cons first events ih =>
    rw [List.cons_append, gather, ih, gather, run_cons_fst, List.append_assoc]

end ChartCompiler
