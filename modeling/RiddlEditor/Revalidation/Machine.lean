import RiddlEditor.Text.Basic
import RiddlEditor.UriMap

/-!
# The revalidation machine

Documents are validated again when their author pauses. A request for a document arms
a job; when its timer fires the job starts to validate, and when the validation ends its
result is published, but only if no newer request has come and the document was not
closed. A new request or a close cancels a job that is armed; a job that validates is left
to finish, and its result is dropped. A shutdown cancels all jobs and, once none is left,
forgets all documents.

A job that is cancelled before its timer fires can only end. One that is cancelled while it
validates may end at once, but a validation need not heed the cancellation, and then the
job goes on as if nothing had happened.

The machine knows neither time nor validation. Timers that fire and validations that end
are events, and so are the requests; `step` says for each event what the machine becomes
and what it puts out. An event that is not possible in a state, such as the timer of a
job that is not armed, changes nothing.

## Main definitions

* `Job`: A request on its way to a result.
* `Machine`: The open documents and the jobs that are alive.
* `Event`, `Output`: What happens to the machine, and what it puts out.
* `Machine.step`, `Machine.run`: One event, and a list of them.
-/

namespace RiddlEditor

/-- A request on its way to a result: whether its validation was started, and whether it
    was told to end. -/
structure Job where
  generation : Nat
  uri : Uri
  text : Text
  dispatched : Bool
  cancelled : Bool
  deriving DecidableEq, Repr

/-- Whether the timer of a job is running. -/
def Job.isArmed (job : Job) : Bool :=
  !job.dispatched && !job.cancelled

/-- A job that was told to end. -/
def Job.cancel (job : Job) : Job :=
  { job with cancelled := true }

/-- A job, cancelled if it has the generation and was not dispatched yet. -/
def Job.disarmed (generation : Nat) (job : Job) : Job :=
  if job.generation = generation ∧ job.dispatched = false then job.cancel else job

/-- A job, dispatched if it has the generation. -/
def Job.dispatchedAt (generation : Nat) (job : Job) : Job :=
  if job.generation = generation then { job with dispatched := true } else job

/-- The newest generation of each open document and the jobs that are alive. A
    generation is a number that is given out once, so it tells requests for one document
    apart even after the document was closed and opened again. -/
structure Machine where
  issued : Nat
  records : UriMap Nat
  jobs : List Job
  deriving DecidableEq, Repr

/-- What happens to the machine. The results of validations are lists of `α`. -/
inductive Event (α : Type) where
  /-- A request to validate a document. -/
  | schedule (uri : Uri) (text : Text)
  /-- A document is closed. -/
  | close (uri : Uri)
  /-- The timer of a job fires. -/
  | fire (generation : Nat)
  /-- The validation of a job returns a result. -/
  | complete (generation : Nat) (result : List α)
  /-- The validation of a job fails. -/
  | fail (generation : Nat)
  /-- A job that was cancelled ends. -/
  | reap (generation : Nat)
  /-- A shutdown is asked for. -/
  | beginShutdown
  /-- A shutdown is complete. -/
  | endShutdown

/-- What the machine puts out. -/
inductive Output (α : Type) where
  /-- A job starts to validate a text. -/
  | validate (generation : Nat) (uri : Uri) (text : Text)
  /-- The result of a job is published. -/
  | publish (generation : Nat) (uri : Uri) (result : List α)
  /-- The results of a closed document are taken back. -/
  | clear (uri : Uri)

namespace Machine

/-- The machine that knows no document. -/
def initial : Machine :=
  ⟨0, [], []⟩

/-- The newest generation of a document, if it is open. -/
def generation? (m : Machine) (uri : Uri) : Option Nat :=
  m.records.get? uri

/-- The job with a generation, if it is alive. -/
def job? (m : Machine) (generation : Nat) : Option Job :=
  m.jobs.find? fun job => job.generation = generation

/-- Whether the newest request for a document has not ended yet. -/
def isPending (m : Machine) (uri : Uri) : Bool :=
  match m.generation? uri with
  | some g => (m.job? g).isSome
  | none => false

/-- Whether a job is the newest request for its document. -/
def isCurrent (m : Machine) (job : Job) : Bool :=
  m.generation? job.uri = some job.generation

/-- The machine after the timer of the newest request for a document was stopped. -/
def disarm (m : Machine) (uri : Uri) : Machine :=
  match m.generation? uri with
  | some g => { m with jobs := m.jobs.map (Job.disarmed g) }
  | none => m

/-- The machine without a job. -/
def remove (m : Machine) (generation : Nat) : Machine :=
  { m with jobs := m.jobs.filter fun job => job.generation ≠ generation }

/-- The machine with the validation of a job started. -/
def dispatch (m : Machine) (generation : Nat) : Machine :=
  { m with jobs := m.jobs.map (Job.dispatchedAt generation) }

/-- The job with a generation, if its timer is running. -/
def armed? (m : Machine) (generation : Nat) : Option Job :=
  (m.job? generation).filter Job.isArmed

/-- The job with a generation, if its validation is running. -/
def validating? (m : Machine) (generation : Nat) : Option Job :=
  (m.job? generation).filter Job.dispatched

/-- The job with a generation, if it was told to end and is still alive. -/
def cancelled? (m : Machine) (generation : Nat) : Option Job :=
  (m.job? generation).filter Job.cancelled

/-- The machine after a request to validate a document. -/
def schedule (m : Machine) (uri : Uri) (text : Text) : Machine :=
  let m := m.disarm uri
  let g := m.issued + 1
  { issued := g
    records := m.records.set uri g
    jobs := m.jobs ++ [⟨g, uri, text, false, false⟩] }

/-- The machine after a document was closed. -/
def close (m : Machine) (uri : Uri) : Machine :=
  let m := m.disarm uri
  { m with records := m.records.erase uri }

/-- What the machine becomes by an event, and what it puts out. -/
def step {α : Type} (m : Machine) : Event α → Machine × List (Output α)
  | .schedule uri text => (m.schedule uri text, [])
  | .close uri => (m.close uri, [.clear uri])
  | .fire g =>
    match m.armed? g with
    | some job =>
      if m.isCurrent job then (m.dispatch g, [.validate g job.uri job.text])
      else (m.remove g, [])
    | none => (m, [])
  | .complete g result =>
    match m.validating? g with
    | some job => (m.remove g, if m.isCurrent job then [.publish g job.uri result] else [])
    | none => (m, [])
  | .fail g =>
    match m.validating? g with
    | some _ => (m.remove g, [])
    | none => (m, [])
  | .reap g =>
    match m.cancelled? g with
    | some _ => (m.remove g, [])
    | none => (m, [])
  | .beginShutdown => ({ m with jobs := m.jobs.map Job.cancel }, [])
  | .endShutdown => (if m.jobs.isEmpty then { m with records := [] } else m, [])

/-- What the machine becomes by a list of events, and all that it puts out. -/
def run {α : Type} (m : Machine) : List (Event α) → Machine × List (Output α)
  | [] => (m, [])
  | e :: rest =>
    let (next, outputs) := m.step e
    let (last, more) := next.run rest
    (last, outputs ++ more)

end Machine

end RiddlEditor
