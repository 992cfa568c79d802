import RiddlEditor.Proofs.Revalidation.Run
import RiddlEditor.Revalidation.Timeline

/-!
# A timeline is a run of its machine

A timeline has a clock, timers and gates, and they decide when jobs run. They do not decide
what jobs do: in every step of a timeline its machine goes through a list of events, one after
the other, and what the timeline puts out is what these events put out. None of the events is a
call, for only the owner of a document makes requests and closes it.

So whatever holds of all runs of the machine holds of a timeline, at any speed of its clock.

## Main definitions

* `Event.isCall`: A call by the owner of a document.
* `Timeline.Runs`: A step that is a run of jobs.

## Theorems

* `Runs.trans`: One run behind another.
* `sequence_apply`: Events in sequence.
* `runs_advance`, `runs_openGate`, `runs_waitIdle`, `runs_shutdown`: The steps of a timeline.
-/

namespace RiddlEditor

/-- Whether an event is a call by the owner of a document, who asks for a validation or closes
    the document. -/
def Event.isCall {α : Type} : Event α → Bool
  | .schedule _ _ => true
  | .close _ => true
  | _ => false

namespace Timeline

variable {α : Type}

/-- A step of a timeline that is a run of jobs: the machine goes through events that are no
    calls, and what is put out is what they put out. -/
def Runs (t : Timeline α) (next : Timeline α × List (Output α)) : Prop :=
  ∃ events : List (Event α), (∀ e ∈ events, e.isCall = false) ∧
    t.machine.run events = (next.1.machine, next.2)

/-- Clocks and timers are no concern of the machine. -/
theorem Runs.still {t u : Timeline α} (h : u.machine = t.machine) : Runs t (u, []) :=
  ⟨[], fun _ he => absurd he List.not_mem_nil, by rw [Machine.run, h]⟩

theorem Runs.of_machine_eq {t u : Timeline α} {next : Timeline α × List (Output α)}
    (h : u.machine = t.machine) (hruns : Runs u next) : Runs t next := by
  rcases hruns with ⟨events, hevents, hrun⟩
  exact ⟨events, hevents, h ▸ hrun⟩

theorem Runs.apply (t : Timeline α) {e : Event α} (he : e.isCall = false) : Runs t (t.apply e) :=
  ⟨[e], fun _ hmem => List.mem_singleton.mp hmem ▸ he, Machine.run_singleton t.machine e⟩

/-- One run behind another. -/
theorem Runs.trans {t u v : Timeline α} {outs more : List (Output α)} (h : Runs t (u, outs))
    (hmore : Runs u (v, more)) : Runs t (v, outs ++ more) := by
  rcases h with ⟨first, hfirst, hrun⟩
  rcases hmore with ⟨rest, hrest, hnext⟩
  refine ⟨first ++ rest, fun e he => ?_, ?_⟩
  · rcases List.mem_append.mp he with he | he
    · exact hfirst e he
    · exact hrest e he
  · rw [Machine.run_append, hrun, hnext]

theorem isCall_ending (g : Nat) (result : Option (List α)) :
    (ending g result).isCall = false := by
  cases result <;> rfl

/-- A job goes on until it waits or ends. -/
theorem runs_proceed (t : Timeline α) (g : Nat) (v : Validation α) : Runs t (t.proceed g v) := by
  rw [proceed]
  cases v.gate with
  | none => exact Runs.apply t (isCall_ending g v.result)
  | some gate =>
      simp only
      split_ifs
      · exact Runs.apply t (isCall_ending g v.result)
      · exact Runs.still rfl
      · exact Runs.apply t rfl

/-- The timer of a job fires, and the job goes on if it is current. -/
theorem runs_fire (validate : Uri → Text → Validation α) (t : Timeline α) (g : Nat) :
    Runs t (t.fire validate g) := by
  have hfire : Runs t (t.apply (.fire g)) := Runs.apply t rfl
  rw [fire]
  simp only
  split
  case h_1 job _ => exact hfire.trans (runs_proceed _ g (validate job.uri job.text))
  case h_2 => exact hfire

/-- Runs in sequence are a run. -/
theorem runs_sequence {β : Type} {f : Timeline α → β → Timeline α × List (Output α)}
    (hf : ∀ t b, Runs t (f t b)) (t : Timeline α) (bs : List β) : Runs t (t.sequence f bs) := by
  induction bs generalizing t with
  | nil => exact Runs.still rfl
  | cons b bs ih => exact (hf t b).trans (ih (f t b).1)

/-- Events in sequence are a run of the machine. -/
theorem sequence_apply {β : Type} (f : β → Event α) (t : Timeline α) (bs : List β) :
    t.sequence (fun t b => t.apply (f b)) bs =
      ({ t with machine := (t.machine.run (bs.map f)).1 }, (t.machine.run (bs.map f)).2) := by
  induction bs generalizing t with
  | nil => rfl
  | cons b bs ih =>
      have hfirst := ih (t.apply (f b)).1
      simp only [sequence, hfirst]
      rfl

/-- The jobs that were cancelled end without a word. -/
theorem runs_settle (t : Timeline α) : Runs t (t.settle, []) := by
  have hsilent (m : Machine) (jobs : List Job) :
      (m.run (jobs.map fun job => (.reap job.generation : Event α))).2 = [] := by
    induction jobs generalizing m with
    | nil => rfl
    | cons job jobs ih =>
        have hreap : (m.step (.reap job.generation : Event α)).2 = [] := by
          simp only [Machine.step]
          split <;> rfl
        rw [List.map_cons, Machine.run_cons, hreap, List.nil_append]
        exact ih _
  refine ⟨(t.machine.jobs.filter Job.cancelled).map fun job => .reap job.generation, ?_, ?_⟩
  · intro e he
    rcases List.mem_map.mp he with ⟨job, -, rfl⟩
    rfl
  · rw [settle, sequence_apply, ← hsilent t.machine]

theorem runs_fireTimers (validate : Uri → Text → Validation α) (t : Timeline α)
    (chosen : Timer → Bool) : Runs t (t.fireTimers validate chosen) := by
  have htimers : ∀ timers, Runs t.settle ({ t.settle with timers }, []) := fun _ => Runs.still rfl
  have hsequence := runs_sequence (fun t (timer : Timer) => runs_fire validate t timer.generation)
  exact (runs_settle t).trans ((htimers _).trans (hsequence _ _))

/-- Time moves on. -/
theorem runs_advance (validate : Uri → Text → Validation α) (t : Timeline α) (seconds : Float) :
    Runs t (t.advance validate seconds) := by
  let later := { t with now := t.now + seconds }
  have hfire : Runs later (later.runDue validate) := runs_fireTimers validate later later.isDue
  exact hfire.of_machine_eq rfl

theorem runs_release (t : Timeline α) (gate : String) : Runs t (t.release gate) := by
  have hgoing := runs_sequence fun t (w : Waiter α) =>
    Runs.apply t (isCall_ending w.generation w.result)
  refine Runs.of_machine_eq ?_ (hgoing _ _)
  rfl

/-- A gate opens. -/
theorem runs_openGate {validate : Uri → Text → Validation α} {t : Timeline α} {gate : String}
    {next : Timeline α × List (Output α)} (h : t.openGate? validate gate = some next) :
    Runs t next := by
  rw [openGate?] at h
  split at h
  case isTrue =>
    obtain rfl := Option.some.inj h
    exact (runs_release t gate).trans (runs_fireTimers validate _ _)
  case isFalse => exact absurd h (Option.some_ne_none next).symm

/-- Time moves on until no job is left. -/
theorem runs_waitIdle (validate : Uri → Text → Validation α) (t : Timeline α) :
    Runs t (t.waitIdle validate) := by
  have hgates := runs_sequence runs_release t (t.gates.mergeSort fun a b => decide (a ≤ b))
  have htimers := fun t => runs_fireTimers validate t fun _ => true
  rcases hgates.trans (htimers _) with ⟨events, hevents, hrun⟩
  exact ⟨events, hevents, hrun⟩

/-- All jobs are cancelled, and nothing is put out. -/
theorem runs_shutdown (t : Timeline α) : Runs t (t.shutdown, []) := by
  have hbegin : Runs t ((t.apply .beginShutdown).1, []) := Runs.apply (e := .beginShutdown) t rfl
  have hend : ∀ u : Timeline α, Runs u ((u.apply .endShutdown).1, []) := fun u =>
    Runs.apply (e := .endShutdown) u rfl
  have hrun := (hbegin.trans (runs_settle _)).trans (hend _)
  rcases hrun with ⟨events, hevents, hrun⟩
  exact ⟨events, hevents, hrun⟩

end Timeline

end RiddlEditor
