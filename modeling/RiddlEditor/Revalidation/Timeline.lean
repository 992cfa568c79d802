import RiddlEditor.Revalidation.Machine

/-!
# Timelines

A revalidation machine with a clock. A request is due a fixed delay after it was made;
time only moves when the owner of the clock says so, and jobs only run then. A
validation may have to wait behind a gate, which stays open once it was opened.

A delay that is not a number sets no deadline. Such a timer runs out in the first step in
which jobs run more than once, because one that was cancelled has to end or because one
starts to wait beside others.

What is due runs in the order of the deadlines, and requests with one deadline in the
order they were made in. A job runs without interruption until it waits or ends. The
timeline moves its machine by events only, so whatever is true of all runs of the
machine is true of a timeline.

## Main definitions

* `Validation`: How the validation of a text goes.
* `Timer`, `Waiter`: A job that waits for its deadline or behind a gate.
* `Timeline`: The machine, the clock and the jobs that wait.
* `Timeline.advance`, `Timeline.openGate`, `Timeline.waitIdle`,
  `Timeline.shutdown`: The steps in which jobs run.
-/

namespace RiddlEditor

/-- How the validation of a text goes: the gate it waits behind, if any, and its result,
    if it does not fail. -/
structure Validation (α : Type) where
  gate : Option String
  result : Option (List α)

/-- A job that waits for its deadline. It starts to do so in the first step in which jobs
    run after the request. -/
structure Timer where
  generation : Nat
  deadline : Float
  started : Bool

/-- A job that waits behind a gate, with the result it will have. -/
structure Waiter (α : Type) where
  generation : Nat
  gate : String
  result : Option (List α)

/-- A machine with a clock. The timers are in the order of the requests, the waiters in
    the order they began to wait. -/
structure Timeline (α : Type) where
  machine : Machine
  now : Float
  delay : Float
  gates : List String
  openGates : List String
  timers : List Timer
  waiters : List (Waiter α)

namespace Timeline

variable {α : Type}

/-- A timeline without documents. -/
def start (delay : Float) (gates : List String) : Timeline α :=
  ⟨Machine.initial, 0.0, delay, gates, [], [], []⟩

/-- A timeline with a delay that comes from outside, which must not be negative. -/
def start? (delay : Float) (gates : List String) : Option (Timeline α) :=
  if delay < 0.0 then none else some (start delay gates)

/-- The wording of the refusal of a negative delay. -/
def negativeDelayMessage : String := "delay cannot be negative"

/-- The timeline after an event, and what its machine puts out. -/
def apply (t : Timeline α) (e : Event α) : Timeline α × List (Output α) :=
  let (machine, outputs) := t.machine.step e
  ({ t with machine }, outputs)

/-- The timeline after a request to validate a document, and the generation of the
    request. -/
def schedule (t : Timeline α) (uri : Uri) (text : Text) : Timeline α × Nat :=
  let (t, _) := t.apply (.schedule uri text)
  let g := t.machine.issued
  ({ t with timers := t.timers ++ [⟨g, t.now + t.delay, false⟩] }, g)

/-- The timeline after a document was closed. -/
def close (t : Timeline α) (uri : Uri) : Timeline α × List (Output α) :=
  t.apply (.close uri)

/-- The end of the validation of a job. -/
def ending (generation : Nat) : Option (List α) → Event α
  | some result => .complete generation result
  | none => .fail generation

/-- A job whose validation has started goes on until it waits or ends. One that would
    wait behind a gate that there is not fails. -/
def proceed (t : Timeline α) (generation : Nat) (v : Validation α) :
    Timeline α × List (Output α) :=
  match v.gate with
  | none => t.apply (ending generation v.result)
  | some gate =>
    if t.openGates.contains gate then t.apply (ending generation v.result)
    else if t.gates.contains gate then
      ({ t with waiters := t.waiters ++ [⟨generation, gate, v.result⟩] }, [])
    else t.apply (.fail generation)

/-- The timer of a job fires. -/
def fire (validate : Uri → Text → Validation α) (t : Timeline α) (generation : Nat) :
    Timeline α × List (Output α) :=
  let (t, outputs) := t.apply (.fire generation)
  match t.machine.validating? generation with
  | some job =>
    let (t, more) := t.proceed generation (validate job.uri job.text)
    (t, outputs ++ more)
  | none => (t, outputs)

/-- Several steps, one after the other. -/
def sequence {β : Type} (f : Timeline α → β → Timeline α × List (Output α)) (t : Timeline α) :
    List β → Timeline α × List (Output α)
  | [] => (t, [])
  | b :: rest =>
    let (t, outputs) := f t b
    let (t, more) := t.sequence f rest
    (t, outputs ++ more)

/-- The jobs that were cancelled end. -/
def settle (t : Timeline α) : Timeline α :=
  let cancelled := t.machine.jobs.filter Job.cancelled
  (t.sequence (fun t job => t.apply (.reap job.generation)) cancelled).1

/-- Timers in the order of their deadlines, where those with one deadline keep theirs. -/
def inOrder (timers : List Timer) : List Timer :=
  timers.mergeSort fun a b => !decide (b.deadline < a.deadline)

/-- A timer whose job has started to wait. -/
def Timer.begin (timer : Timer) : Timer :=
  { timer with started := true }

/-- The timers among `chosen` fire, and the others go on. -/
def fireTimers (validate : Uri → Text → Validation α) (t : Timeline α)
    (chosen : Timer → Bool) : Timeline α × List (Output α) :=
  let firing := inOrder (t.timers.filter chosen)
  let waiting := (t.timers.filter fun timer => !chosen timer).map Timer.begin
  let t := { t.settle with timers := waiting }
  t.sequence (fun t timer => t.fire validate timer.generation) firing

/-- Whether jobs run more than once in a step: one of them has yet to end, or one starts
    to wait while another does so already. -/
def runsAgain (t : Timeline α) : Bool :=
  t.machine.jobs.any Job.cancelled ||
    (t.timers.any Timer.started && t.timers.any fun timer => !timer.started)

/-- Whether a timer is due: its deadline is not in the future, or it has none and jobs run
    more than once. -/
def isDue (t : Timeline α) (timer : Timer) : Bool :=
  timer.deadline ≤ t.now || (timer.deadline.isNaN && t.runsAgain)

/-- All timers fire that are due. -/
def runDue (validate : Uri → Text → Validation α) (t : Timeline α) :
    Timeline α × List (Output α) :=
  t.fireTimers validate t.isDue

/-- Time moves on. -/
def advance (validate : Uri → Text → Validation α) (t : Timeline α) (seconds : Float) :
    Timeline α × List (Output α) :=
  { t with now := t.now + seconds }.runDue validate

/-- A gate opens, and those that wait behind it go on. -/
def release (t : Timeline α) (gate : String) : Timeline α × List (Output α) :=
  let going := t.waiters.filter fun w => w.gate = gate
  let t := { t with
    openGates := gate :: t.openGates
    waiters := t.waiters.filter fun w => w.gate ≠ gate }
  t.sequence (fun t w => t.apply (ending w.generation w.result)) going

/-- A gate opens; those behind it go on before anything that is due. There is no step for
    a gate that there is not. -/
def openGate? (validate : Uri → Text → Validation α) (t : Timeline α) (gate : String) :
    Option (Timeline α × List (Output α)) :=
  if t.gates.contains gate then
    let (t, outputs) := t.release gate
    let (t, more) := t.runDue validate
    some (t, outputs ++ more)
  else none

/-- Whether a timer belongs to a job that is still armed. -/
def isNeeded (t : Timeline α) (timer : Timer) : Bool :=
  (t.machine.armed? timer.generation).isSome

/-- All gates open, in the order of their names, and time moves on until no job is left. -/
def waitIdle (validate : Uri → Text → Validation α) (t : Timeline α) :
    Timeline α × List (Output α) :=
  let (t, outputs) := t.sequence release (t.gates.mergeSort fun a b => decide (a ≤ b))
  let last := (t.timers.filter t.isNeeded).foldl
    (fun latest timer => if latest < timer.deadline then timer.deadline else latest) t.now
  let (t, more) := t.fireTimers validate fun _ => true
  ({ t with now := last }, outputs ++ more)

/-- All jobs are cancelled and end, and all documents are forgotten. -/
def shutdown (t : Timeline α) : Timeline α :=
  let (t, _) := t.apply .beginShutdown
  let (t, _) := t.settle.apply .endShutdown
  { t with timers := [], waiters := [] }

end Timeline

end RiddlEditor
