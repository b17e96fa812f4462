import ChartCompiler.Render.Renderer

/-!
Playing renders on one thread. The engine's answers are planned beforehand and
time is virtual: it moves from one due time to the next. At each moment the jobs
that are ready run in order; an operation whose view has just been made lets the
others go first, and of several such the last one resumes first.
-/

namespace ChartCompiler

/-- What a view's own code does, once, just before it is first listened to for
an event. -/
inductive ViewCode where
  | cleanUp
  /-- a request that is carried out on the spot -/
  | render (request : RenderRequest) (fails : Bool)

/-- How the engine will answer a request. -/
structure EnginePlan where
  /-- after how many milliseconds -/
  delay : Nat := 0
  fails : Bool := false
  code : Option ViewCode := none

/-- Work that runs without being interrupted. -/
inductive RenderJob where
  | start (request : RenderRequest) (plan : EnginePlan)
  /-- the engine answers -/
  | answer (operation : Nat) (plan : EnginePlan)
  /-- a transition is over -/
  | expire (swap : Nat)
  | cleanUp

/-- A job that waits for its time. -/
structure RenderTimer where
  due : Nat
  job : RenderJob

/-- A renderer together with what waits for its time. -/
structure RenderSchedule where
  renderer : Renderer
  /-- in the order in which they were set -/
  timers : List RenderTimer := []
  /-- the number of tasks started so far -/
  tasks : Nat := 0
  /-- what could be seen so far -/
  log : List RenderEffect := []

namespace RenderSchedule

/-- Lets one event happen; the transition that a swap begins gets its timer. -/
def step (s : RenderSchedule) (event : RenderEvent) : RenderSchedule :=
  let (renderer, effects) := s.renderer.step event
  let begun := renderer.retirements.filter fun t => s.renderer.lastSwap < t.swap
  { s with
    renderer
    timers := s.timers ++ begun.map fun t => ⟨t.due, .expire t.swap⟩
    log := s.log ++ effects }

/-- Makes a request; answers with the operation it starts, if it starts one. -/
def request (s : RenderSchedule) (requester : Requester) (request : RenderRequest) :
    RenderSchedule × Option Nat :=
  let next := s.step (.request requester request)
  (next, if next.renderer.counter = s.renderer.counter then none else next.renderer.current)

/-- Attaches an operation's listeners and lets it become visible. -/
def attachAll (s : RenderSchedule) (operation : Nat) (listeners : List Listener) :
    RenderSchedule :=
  (listeners.foldl (fun s _ => s.step (.attach operation)) s).step (.commit operation)

/-- The listeners that an operation has to attach. -/
def missing (s : RenderSchedule) (operation : Nat) : List Listener :=
  match (s.renderer.operation? operation).map RenderOperation.phase with
  | some (.attaching _ _ missing) => missing
  | _ => []

/-- Runs a view's code to its end. -/
def runCode (s : RenderSchedule) (code : ViewCode) : RenderSchedule :=
  match code with
  | .cleanUp => s.step .cleanUp
  | .render request fails =>
    match s.request .viewCode request with
    | (s, none) => s
    | (s, some id) =>
      let s := (s.step (.embedded id (!fails))).step (.resume id)
      s.attachAll id (s.missing id)

/-- An operation resumes: it attaches its listeners, with the view's code before
the first one for an event, and becomes visible. -/
def resume (s : RenderSchedule) (operation : Nat) (code : Option ViewCode) : RenderSchedule :=
  let s := s.step (.resume operation)
  let isSignal : Listener → Bool
    | .signal _ => true
    | .event _ => false
  let listeners := s.missing operation
  let before := listeners.takeWhile isSignal
  let after := listeners.dropWhile isSignal
  let s := before.foldl (fun s _ => s.step (.attach operation)) s
  let s := if after.isEmpty then s else (code.map s.runCode).getD s
  s.attachAll operation after

/-- An operation that has its view and lets the others go first. -/
structure Waiting where
  operation : Nat
  code : Option ViewCode

/-- The engine answers an operation; with a view it goes on after the others. -/
def answer (s : RenderSchedule) (operation : Nat) (plan : EnginePlan) :
    RenderSchedule × Option Waiting :=
  let s := s.step (.embedded operation (!plan.fails))
  match s.renderer.operation? operation with
  | some _ => (s, some ⟨operation, plan.code⟩)
  | none => (s, none)

/-- Runs one job up to its end or to the point where it lets the others go first. -/
def runJob (s : RenderSchedule) (job : RenderJob) : RenderSchedule × Option Waiting :=
  match job with
  | .start request plan =>
    match { s with tasks := s.tasks + 1 }.request (.task s.tasks) request with
    | (s, none) => (s, none)
    | (s, some id) =>
      if plan.delay = 0 then s.answer id plan
      else
        ({ s with
            timers := s.timers ++ [⟨s.renderer.now + plan.delay, .answer id plan⟩] }, none)
  | .answer operation plan => s.answer operation plan
  | .expire swap => (s.step (.expire swap), none)
  | .cleanUp => (s.step .cleanUp, none)

/-- Runs the jobs that are ready in order, then those that let others go first,
the last one first. -/
def runAll (s : RenderSchedule) (jobs : List RenderJob) : RenderSchedule :=
  let (s, waiting) := jobs.foldl (fun (s, waiting) job =>
    let (s, yielded) := s.runJob job
    (s, yielded.toList ++ waiting)) (s, ([] : List Waiting))
  waiting.foldl (fun s w => s.resume w.operation w.code) s

/-- Moves the clock to a due time and runs what is due then. -/
def fire (s : RenderSchedule) (due : Nat) : RenderSchedule :=
  let ready := s.timers.filter fun t => t.due ≤ due
  let s := { s with timers := s.timers.filter fun t => due < t.due }
  (s.step (.advance (due - s.renderer.now))).runAll (ready.map RenderTimer.job)

/-- Plays from one time to a later one, stopping at each due time between them. -/
def playFrom (s : RenderSchedule) (start stop : Nat) : RenderSchedule :=
  match (s.timers.map RenderTimer.due).min? with
  | none => s.fire stop
  | some due =>
    if _ : start < due ∧ due < stop then (s.fire due).playFrom due stop
    else s.fire stop
termination_by stop - start

/-- Lets time pass. -/
def wait (s : RenderSchedule) (milliseconds : Nat) : RenderSchedule :=
  s.playFrom s.renderer.now (s.renderer.now + milliseconds)

end RenderSchedule

end ChartCompiler
