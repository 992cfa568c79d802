import RiddlEditor.Proofs.Revalidation.Isolation

/-!
# Machines that have counted before

Numbers are given out in order and never again, so a machine that has given out some of them
goes on with greater ones. Nothing else depends on how far it has counted: machines compare
numbers with each other and with nothing else.

`behind n` is the machine that has given out `n` numbers more. Each event does to it what the
event with its number counted from there does to the original machine (`step_behind`), and so
does a whole run (`run_behind`). An event may have a number that is not greater than `n`. It is
of the time before, and counted from there its number is zero, which no request has. This is
why the lemmas ask for machines whose jobs have numbers greater than zero; those of every run
do.

## Main definitions

* `Machine.behind`: A machine that has given out some numbers before.
* `Machine.Positive`: No job has the number zero.

## Theorems

* `Positive.step`, `positive_after`: The jobs of a run have numbers greater than zero.
* `generation?_behind`, `isPending_behind`: What is known of a document.
* `job?_behind`: The job that has a number.
* `step_behind`, `run_behind`: One event, and a whole run.
-/

namespace RiddlEditor

/-- The entries of a document, each with another value. -/
theorem UriMap.get?_mapValues {β γ : Type} (f : β → γ) (entries : UriMap β) (uri : Uri) :
    UriMap.get? (entries.map fun entry => (entry.1, f entry.2)) uri =
      (UriMap.get? entries uri).map f := by
  rw [UriMap.get?, List.find?_map, UriMap.get?, Option.map_map, Option.map_map]
  rfl

theorem UriMap.erase_mapValues {β γ : Type} (f : β → γ) (entries : UriMap β) (uri : Uri) :
    UriMap.erase (entries.map fun entry => (entry.1, f entry.2)) uri =
      (UriMap.erase entries uri).map fun entry => (entry.1, f entry.2) := by
  rw [UriMap.erase, List.filter_map, UriMap.erase]
  rfl

namespace Machine

/-- A machine that has given out some numbers before, and is like another one otherwise. -/
def behind (n : Nat) (m : Machine) : Machine where
  issued := n + m.issued
  records := m.records.map fun entry => (entry.1, n + entry.2)
  jobs := m.jobs.map (Job.renumber (n + ·))

/-- No job has the number zero. -/
def Positive (m : Machine) : Prop :=
  ∀ job ∈ m.jobs, 0 < job.generation

variable {α : Type} {m : Machine} {n : Nat}

theorem Positive.initial : Positive Machine.initial :=
  fun _ hjob => absurd hjob List.not_mem_nil

theorem Positive.step (h : m.Positive) (e : Event α) : (m.step e).1.Positive := by
  intro job hjob
  rcases mem_jobs_step hjob with ⟨old, hold, hcarries⟩ | ⟨uri, text, -, rfl⟩
  · rw [hcarries.older.generation]
    exact h old hold
  · exact Nat.succ_pos m.issued

theorem positive_after (events : List (Event α)) : (after events).Positive := by
  induction events using List.reverseRecOn with
  | nil => exact .initial
  | append_singleton events e ih =>
      rw [after_snoc]
      exact ih.step e

/-! ## What is known -/

theorem generation?_behind (uri : Uri) :
    (m.behind n).generation? uri = (m.generation? uri).map (n + ·) :=
  UriMap.get?_mapValues (n + ·) m.records uri

theorem isCurrent_behind (job : Job) :
    (m.behind n).isCurrent (job.renumber (n + ·)) = m.isCurrent job := by
  rw [isCurrent, isCurrent, generation?_behind, Job.uri_renumber, Job.generation_renumber]
  refine decide_eq_decide.mpr ?_
  rcases m.generation? job.uri with _ | g
  · exact iff_of_false (Option.some_ne_none _).symm (Option.some_ne_none _).symm
  · rw [Option.map_some, Option.some.injEq, Option.some.injEq]
    omega

/-- A job has a number in the one machine if it has the number counted from there in the
    other. -/
theorem job?_behind (h : m.Positive) (g : Nat) :
    (m.behind n).job? g = (m.job? (g - n)).map (Job.renumber (n + ·)) := by
  rw [job?, behind, List.find?_map, job?]
  refine congrArg _ (List.find?_congr fun job hjob => decide_eq_decide.mpr ?_)
  have hpos := h job hjob
  simp only [Job.generation_renumber]
  omega

theorem armed?_behind (h : m.Positive) (g : Nat) :
    (m.behind n).armed? g = (m.armed? (g - n)).map (Job.renumber (n + ·)) := by
  rw [armed?, job?_behind h, Option.filter_map]
  rfl

theorem validating?_behind (h : m.Positive) (g : Nat) :
    (m.behind n).validating? g = (m.validating? (g - n)).map (Job.renumber (n + ·)) := by
  rw [validating?, job?_behind h, Option.filter_map]
  rfl

theorem cancelled?_behind (h : m.Positive) (g : Nat) :
    (m.behind n).cancelled? g = (m.cancelled? (g - n)).map (Job.renumber (n + ·)) := by
  rw [cancelled?, job?_behind h, Option.filter_map]
  rfl

/-- A document waits for a result in both machines or in neither. -/
theorem isPending_behind (h : m.Positive) (uri : Uri) :
    (m.behind n).isPending uri = m.isPending uri := by
  rw [isPending, isPending, generation?_behind]
  rcases m.generation? uri with _ | g
  · rfl
  · simp only [Option.map_some, job?_behind h, Nat.add_sub_cancel_left, Option.isSome_map]

/-- The number of a job that was found can be counted back. -/
theorem Positive.add_sub (h : m.Positive) {g : Nat} {job : Job} (hjob : job ∈ m.jobs)
    (hgen : job.generation = g - n) : n + (g - n) = g := by
  have hpos := h job hjob
  omega

/-! ## What is done -/

theorem behind_map {f f' : Job → Job}
    (hf : ∀ job, f' (job.renumber (n + ·)) = (f job).renumber (n + ·)) :
    { m.behind n with jobs := (m.behind n).jobs.map f' } =
      ({ m with jobs := m.jobs.map f } : Machine).behind n := by
  simp only [behind, List.map_map, Machine.mk.injEq, true_and]
  exact List.map_congr_left fun job _ => hf job

theorem dispatch_behind (g : Nat) : (m.behind n).dispatch (n + g) = (m.dispatch g).behind n :=
  behind_map fun _ => Job.dispatchedAt_renumber (by omega)

theorem remove_behind (g : Nat) : (m.behind n).remove (n + g) = (m.remove g).behind n := by
  simp only [remove, behind, List.filter_map, Machine.mk.injEq, true_and]
  refine congrArg _ (List.filter_congr fun job _ => decide_eq_decide.mpr ?_)
  simp only [Job.generation_renumber]
  omega

theorem disarm_behind (uri : Uri) : (m.behind n).disarm uri = (m.disarm uri).behind n := by
  rw [disarm, disarm, generation?_behind]
  rcases m.generation? uri with _ | g
  · rfl
  · exact behind_map fun _ => Job.disarmed_renumber (by omega)

theorem schedule_behind (uri : Uri) (text : Text) :
    (m.behind n).schedule uri text = (m.schedule uri text).behind n := by
  simp only [schedule, disarm_behind]
  simp only [behind, UriMap.set, UriMap.erase_mapValues, List.map_append]
  rfl

theorem close_behind (uri : Uri) : (m.behind n).close uri = (m.close uri).behind n := by
  simp only [close, disarm_behind]
  simp only [behind, UriMap.erase_mapValues]

/-- Each event does to the machine that has counted before what it does to the other one if its
    number is counted from there. -/
theorem step_behind (h : m.Positive) (e : Event α) :
    (m.behind n).step e = ((m.step (e.renumber (· - n))).1.behind n,
      (m.step (e.renumber (· - n))).2.map (Output.renumber (n + ·))) := by
  cases e with
  | schedule uri text => exact Prod.ext (schedule_behind uri text) rfl
  | close uri => exact Prod.ext (close_behind uri) rfl
  | fire g =>
      simp only [step, Event.renumber, armed?_behind h]
      rcases hfound : m.armed? (g - n) with _ | job
      · rfl
      · rcases armed?_eq_some hfound with ⟨hmem, hgen, -⟩
        have hg := h.add_sub hmem hgen
        simp only [Option.map_some, isCurrent_behind]
        by_cases hcur : m.isCurrent job = true
        · rw [if_pos hcur, if_pos hcur, ← dispatch_behind, hg]
          simp only [List.map_cons, List.map_nil, Output.renumber, hg]
          rfl
        · rw [if_neg hcur, if_neg hcur, ← remove_behind, hg]
          rfl
  | complete g result =>
      simp only [step, Event.renumber, validating?_behind h]
      rcases hfound : m.validating? (g - n) with _ | job
      · rfl
      · rcases validating?_eq_some hfound with ⟨hmem, hgen, -⟩
        have hg := h.add_sub hmem hgen
        simp only [Option.map_some, isCurrent_behind, ← remove_behind, hg]
        by_cases hcur : m.isCurrent job = true
        · rw [if_pos hcur, if_pos hcur]
          simp only [List.map_cons, List.map_nil, Output.renumber, hg]
          rfl
        · rw [if_neg hcur, if_neg hcur]
          rfl
  | fail g =>
      simp only [step, Event.renumber, validating?_behind h]
      rcases hfound : m.validating? (g - n) with _ | job
      · rfl
      · rcases validating?_eq_some hfound with ⟨hmem, hgen, -⟩
        simp only [Option.map_some, ← remove_behind, h.add_sub hmem hgen]
        rfl
  | reap g =>
      simp only [step, Event.renumber, cancelled?_behind h]
      rcases hfound : m.cancelled? (g - n) with _ | job
      · rfl
      · rcases cancelled?_eq_some hfound with ⟨hmem, hgen, -⟩
        simp only [Option.map_some, ← remove_behind, h.add_sub hmem hgen]
        rfl
  | beginShutdown => exact Prod.ext (behind_map fun _ => rfl) rfl
  | endShutdown =>
      simp only [step, Event.renumber, behind, List.isEmpty_map]
      split <;> rfl

/-- So does a whole run. -/
theorem run_behind (h : m.Positive) (events : List (Event α)) :
    (m.behind n).run events = ((m.run (events.map (Event.renumber (· - n)))).1.behind n,
      (m.run (events.map (Event.renumber (· - n)))).2.map (Output.renumber (n + ·))) := by
  induction events generalizing m with
  | nil => rfl
  | cons e events ih =>
      simp only [run, step_behind h, ih (h.step _), List.map_cons, List.map_append]

end Machine

end RiddlEditor
