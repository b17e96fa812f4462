import ChartCompiler.Render.Basic

/-!
The renderer as a machine of small steps. Only the most recent request may
become visible: every new request, and every cleanup, aborts the operation that
is current, and an operation looks at its mark whenever other work may have come
in between. The steps of several operations can be interleaved at will.
-/

namespace ChartCompiler

/-- How long a displaced view lives on, in milliseconds. -/
def transitionWindow : Nat := 300

/-- A renderer with what it has under way. -/
structure Renderer where
  /-- follows the chart that is visible -/
  coordinator : Coordinator
  /-- the visible slot -/
  active : Slot := .a
  /-- a displaced view is still living on -/
  transitioning : Bool := false
  slots : Slots := {}
  /-- the operation that may still become visible -/
  current : Option Nat := none
  /-- the number of operations so far -/
  counter : Nat := 0
  /-- the operation that became visible last -/
  lastSwap : Nat := 0
  /-- the text of the visible document -/
  fingerprint : Option String := none
  /-- the operations under way, in the order in which they started -/
  operations : List RenderOperation := []
  /-- the number of views made so far -/
  views : Nat := 0
  /-- the retirements to come, in the order in which they were set -/
  retirements : List Retirement := []
  /-- the time in milliseconds -/
  now : Nat := 0

namespace Renderer

/-- A step's result: the renderer after it and what others can see of it. -/
abbrev Result := Renderer × List RenderEffect

/-! ## Operations -/

/-- The operation under way with the given number. -/
def operation? (r : Renderer) (id : Nat) : Option RenderOperation :=
  r.operations.find? fun op => op.id = id

/-- Moves an operation to another phase. -/
def setPhase (r : Renderer) (id : Nat) (phase : RenderPhase) : Renderer :=
  { r with
    operations := r.operations.map fun op => if op.id = id then { op with phase } else op }

/-- Marks the current operation as aborted; there is no current one afterwards. -/
def abortCurrent (r : Renderer) : Renderer :=
  { r with
    current := none
    operations := r.operations.map fun op =>
      if r.current = some op.id then { op with aborted := true } else op }

/-- Ends an operation and tells its requester. -/
def finish (r : Renderer) (op : RenderOperation) (outcome : RenderOutcome) : Result :=
  ({ r with
      current := if r.current = some op.id then none else r.current
      operations := r.operations.filter fun other => other.id ≠ op.id },
    [.answered op.requester outcome])

/-- Ends an aborted operation and gives its view up. -/
def discard (r : Renderer) (op : RenderOperation) (view : Nat)
    (attached : List AttachedListener) : Result :=
  let (r, told) := r.finish op .aborted
  (r, (MountedView.mk view attached op.id).dispose ++ told)

/-- What the owner is told. -/
def statusEffect (r : Renderer) : RenderEffect :=
  .status r.active r.transitioning

/-! ## Steps -/

/-- A request starts an operation on the hidden slot, unless the same document
is visible and the request is not forced. -/
def request (r : Renderer) (requester : Requester) (request : RenderRequest) : Result :=
  if !request.force && r.fingerprint = some request.document.compact then
    (r, [.answered requester .unchanged])
  else
    let id := r.counter + 1
    let target := r.active.other
    let r := r.abortCurrent
    ({ r with
        current := some id
        counter := id
        operations := r.operations ++ [{ id, target, requester, request }] },
      [.embed id target request.document request.theme])

/-- The engine answers an operation. -/
def embedded (r : Renderer) (op : RenderOperation) (success : Bool) : Result :=
  if success then
    let view := r.views
    let r := { r with views := view + 1 }
    if op.aborted then
      let (r, effects) := r.discard op view []
      (r, .created op.id view :: effects)
    else (r.setPhase op.id (.embedded view), [.created op.id view])
  else r.finish op .failed

/-- An operation goes on with its view. -/
def resume (r : Renderer) (op : RenderOperation) (view : Nat) : Result :=
  if op.aborted then r.discard op view []
  else
    (r.setPhase op.id
      (.attaching view [] (listenerPlan op.request.config op.request.mobile)), [])

/-- An operation attaches one more listener to its view. -/
def attach (r : Renderer) (op : RenderOperation) (view : Nat) (attached : List AttachedListener)
    (listener : Listener) (missing : List Listener) : Result :=
  let added : AttachedListener := { listener, number := attached.length }
  (r.setPhase op.id (.attaching view (attached ++ [added]) missing), [.listen view added])

/-- Makes an operation's view visible. The view that was visible is to be retired
after the transition; one that was still in the operation's slot is given up. -/
def swap (r : Renderer) (op : RenderOperation) (mounted : MountedView) : Result :=
  let replaced := r.slots.get op.target
  let retirement : Retirement :=
    { swap := op.id
      slot := r.active
      generation := (r.slots.get r.active).map MountedView.generation
      due := r.now + transitionWindow }
  let r :=
    { r with
      coordinator := r.coordinator.setConfig op.request.config
      active := op.target
      transitioning := true
      slots := r.slots.set op.target (some mounted)
      lastSwap := op.id
      fingerprint := some op.request.document.compact
      retirements := r.retirements ++ [retirement] }
  let (r, told) := r.finish op .rendered
  (r, r.statusEffect :: (replaced.toList.flatMap MountedView.dispose ++ told))

/-- An operation whose listeners are all attached becomes visible, unless it has
been aborted. -/
def commit (r : Renderer) (op : RenderOperation) (view : Nat)
    (attached : List AttachedListener) : Result :=
  if op.aborted then r.discard op view attached
  else r.swap op ⟨view, attached, op.id⟩

/-- The view that a retirement is about, if it is still there and hidden. -/
def retired? (r : Renderer) (retirement : Retirement) : Option MountedView :=
  if r.active = retirement.slot then none
  else (r.slots.get retirement.slot).filter fun m => retirement.generation = some m.generation

/-- A transition is over: the displaced view is given up, unless its slot has
been used again. -/
def retire (r : Renderer) (retirement : Retirement) : Result :=
  let stale := r.retired? retirement
  let r := { r with
    transitioning := r.transitioning && r.lastSwap ≠ retirement.swap
    slots := if stale.isSome then r.slots.set retirement.slot none else r.slots
    retirements := r.retirements.filter fun other => other.swap ≠ retirement.swap }
  (r, stale.toList.flatMap MountedView.dispose ++ [r.statusEffect])

/-- Aborts what is under way and empties both slots. -/
def cleanUp (r : Renderer) : Result :=
  let mounted := r.slots.toList
  let r := { r.abortCurrent with fingerprint := none, transitioning := false, slots := {} }
  (r, mounted.flatMap MountedView.dispose ++ [r.statusEffect])

/-! ## Views -/

/-- The listeners that a view has now. -/
def listenersOf (r : Renderer) (view : Nat) : List Listener :=
  let mounted := r.slots.toList.filter fun m => m.view = view
  let attaching := r.operations.flatMap fun op =>
    match op.phase with
    | .attaching v attached _ => if v = view then attached else []
    | _ => []
  (mounted.flatMap MountedView.listeners ++ attaching).map AttachedListener.listener

/-- Lets the coordinator answer once for every listener that is told. -/
def report (r : Renderer) (told : List Listener)
    (answer : Coordinator → Coordinator × List InteractionCall) : Result :=
  told.foldl (fun (r, effects) _ =>
    let (coordinator, calls) := answer r.coordinator
    ({ r with coordinator }, effects ++ calls.map .interaction)) (r, [])

/-- A view reports a click to its listeners for events. -/
def click (r : Renderer) (view : Nat) (shift : Bool) (datum : Option Row) : Result :=
  let told := (r.listenersOf view).filter fun
    | .event _ => true
    | .signal _ => false
  r.report told fun c => c.click r.now shift datum

/-- A view reports a change of its brush to its listeners for signals. -/
def brush (r : Renderer) (view : Nat) (range : Json) : Result :=
  let told := (r.listenersOf view).filter fun
    | .event _ => false
    | .signal _ => true
  r.report told fun c => c.brush r.now range

/-- The view that is visible. -/
def visible? (r : Renderer) : Option Nat :=
  (r.slots.get r.active).map MountedView.view

/-! ## Runs -/

/-- What an operation does at an event that concerns it. -/
def stepOperation (r : Renderer) (op : RenderOperation) (event : RenderEvent) : Result :=
  match event, op.phase with
  | .embedded _ success, .embedding => r.embedded op success
  | .resume _, .embedded view => r.resume op view
  | .attach _, .attaching view attached (listener :: missing) =>
    r.attach op view attached listener missing
  | .commit _, .attaching view attached [] => r.commit op view attached
  | _, _ => (r, [])

/-- One event. -/
def step (r : Renderer) (event : RenderEvent) : Result :=
  match event with
  | .request requester request => r.request requester request
  | .embedded id _ | .resume id | .attach id | .commit id =>
    match r.operation? id with
    | some op => r.stepOperation op event
    | none => (r, [])
  | .expire swap =>
    match r.retirements.find? fun t => t.swap = swap && t.due ≤ r.now with
    | some retirement => r.retire retirement
    | none => (r, [])
  | .cleanUp => r.cleanUp
  | .advance ms => ({ r with now := r.now + ms }, [])
  | .click view shift datum => r.click view shift datum
  | .brush view range => r.brush view range

/-- A run: the events in order, and all that others can see of them. -/
def run (r : Renderer) (events : List RenderEvent) : Result :=
  events.foldl (fun (r, seen) event =>
    let (r, effects) := r.step event
    (r, seen ++ effects)) (r, [])

end Renderer

/-- Why the visible chart cannot be exported. -/
inductive ExportError where
  | nothingRendered
deriving DecidableEq, Repr

/-- The wording of the error. -/
def ExportError.message : ExportError → String
  | nothingRendered => "no chart has been rendered"

/-- The view to export. -/
def Renderer.exported (r : Renderer) : Except ExportError Nat :=
  match r.visible? with
  | some view => .ok view
  | none => .error .nothingRendered

end ChartCompiler
