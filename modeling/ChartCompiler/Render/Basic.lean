import ChartCompiler.Interaction
import ChartCompiler.Theme

/-!
The nouns of double-buffered rendering. There are two slots and one of them is
visible. A render asks an external engine to draw a document into the hidden
slot; the view that the engine makes is listened to, mounted, and from then on
visible. The view it displaces lives on for a short transition.

Views and operations are named by numbers: views from 0 in the order in which
the engine makes them, operations from 1 in the order in which they start, and
the listeners of a view from 0 in the order in which they are attached.
-/

namespace ChartCompiler

/-! ## Slots -/

/-- The two places a view can be mounted in. -/
inductive Slot where
  | a
  | b
deriving DecidableEq, Repr

namespace Slot

/-- The slot that is hidden while this one is visible. -/
def other : Slot → Slot
  | a => b
  | b => a

/-- The name by which the engine knows the slot. -/
def name : Slot → String
  | a => "chart-a"
  | b => "chart-b"

@[simp] theorem other_other (slot : Slot) : slot.other.other = slot := by
  cases slot <;> rfl

@[simp] theorem other_ne (slot : Slot) : slot.other ≠ slot := by
  cases slot <;> nofun

end Slot

/-! ## Views -/

/-- A listener that a view has, with its number. -/
structure AttachedListener where
  listener : Listener
  number : Nat
deriving DecidableEq, Repr

/-- A view in a slot. -/
structure MountedView where
  view : Nat
  listeners : List AttachedListener
  /-- the operation that mounted it -/
  generation : Nat
deriving DecidableEq, Repr

/-- What is mounted in the two slots. -/
structure Slots where
  a : Option MountedView := none
  b : Option MountedView := none
deriving DecidableEq, Repr

namespace Slots

/-- What is mounted in a slot. -/
def get (slots : Slots) : Slot → Option MountedView
  | .a => slots.a
  | .b => slots.b

/-- Mounts a view in a slot, or empties the slot. -/
def set (slots : Slots) (slot : Slot) (mounted : Option MountedView) : Slots :=
  match slot with
  | .a => { slots with a := mounted }
  | .b => { slots with b := mounted }

/-- The mounted views, the first slot's first. -/
def toList (slots : Slots) : List MountedView :=
  slots.a.toList ++ slots.b.toList

@[simp] theorem get_set_self (slots : Slots) (slot : Slot) (mounted : Option MountedView) :
    (slots.set slot mounted).get slot = mounted := by
  cases slot <;> rfl

@[simp] theorem get_set_other (slots : Slots) (slot : Slot) (mounted : Option MountedView) :
    (slots.set slot mounted).get slot.other = slots.get slot.other := by
  cases slot <;> rfl

end Slots

/-! ## Requests -/

/-- A document to be shown. -/
structure RenderRequest where
  document : Json
  config : ChartConfig := {}
  theme : Theme := .light
  mobile : Bool := false
  /-- render even if the same document is visible already -/
  force : Bool := false

/-- What a request ended with. -/
inductive RenderOutcome where
  /-- the same document was visible, and nothing was done -/
  | unchanged
  | rendered
  /-- a newer request or a cleanup came in between -/
  | aborted
  | failed
deriving DecidableEq, Repr

/-- Who made a request and is told its outcome. -/
inductive Requester where
  | task (number : Nat)
  /-- code that a view runs while it is listened to -/
  | viewCode
deriving DecidableEq, Repr

/-! ## Operations -/

/-- How far an operation has come. -/
inductive RenderPhase where
  /-- the engine is drawing -/
  | embedding
  /-- the engine has made the view; other work may go first once more -/
  | embedded (view : Nat)
  /-- the view is being listened to; some listeners may be missing -/
  | attaching (view : Nat) (attached : List AttachedListener) (missing : List Listener)
deriving DecidableEq, Repr

/-- A request that is being carried out. -/
structure RenderOperation where
  id : Nat
  /-- the slot it draws into -/
  target : Slot
  /-- it must not become visible any more -/
  aborted : Bool := false
  requester : Requester
  request : RenderRequest
  phase : RenderPhase := .embedding

/-- The view in a slot is to be retired when the transition is over. -/
structure Retirement where
  /-- the operation that displaced the view -/
  swap : Nat
  slot : Slot
  /-- the operation that had mounted it, if there was a view at all -/
  generation : Option Nat
  /-- when the transition is over -/
  due : Nat
deriving DecidableEq, Repr

/-! ## Events and effects -/

/-- What happens to a renderer. An event that does not fit the state of the
operation it names changes nothing. -/
inductive RenderEvent where
  | request (requester : Requester) (request : RenderRequest)
  /-- the engine answers, with a view or with a failure -/
  | embedded (operation : Nat) (success : Bool)
  /-- the operation gets its turn after the engine has answered -/
  | resume (operation : Nat)
  /-- the next listener is attached to the operation's view -/
  | attach (operation : Nat)
  /-- all listeners are attached -/
  | commit (operation : Nat)
  /-- the transition that began with a swap is over -/
  | expire (swap : Nat)
  | cleanUp
  /-- time passes -/
  | advance (milliseconds : Nat)
  /-- a view reports a click -/
  | click (view : Nat) (shift : Bool) (datum : Option Row)
  /-- a view reports a change of its brush -/
  | brush (view : Nat) (range : Json)

/-- What a renderer does that others can see. -/
inductive RenderEffect where
  /-- the engine is asked to draw a document into a slot -/
  | embed (operation : Nat) (slot : Slot) (document : Json) (theme : Theme)
  /-- the engine has made a view for an operation -/
  | created (operation view : Nat)
  | listen (view : Nat) (attached : AttachedListener)
  | unlisten (view : Nat) (attached : AttachedListener)
  | finalize (view : Nat)
  /-- the owner is told which slot is visible and whether a transition is on -/
  | status (active : Slot) (transitioning : Bool)
  | answered (requester : Requester) (outcome : RenderOutcome)
  | interaction (call : InteractionCall)

namespace MountedView

/-- Gives a view up: its listeners are removed in the order in which they were
attached, then the view is finalized. -/
def dispose (mounted : MountedView) : List RenderEffect :=
  mounted.listeners.map (.unlisten mounted.view) ++ [.finalize mounted.view]

end MountedView

end ChartCompiler
