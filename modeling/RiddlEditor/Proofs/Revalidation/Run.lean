import Mathlib.Data.List.Induction
import RiddlEditor.Revalidation.Machine

/-!
# Runs of the revalidation machine

What every run of the machine from its start keeps, whatever the order of its events.

A run is taken apart at its end, since what is known of a machine is known from the events
so far: `after_snoc` and `outputs_snoc` add one event. What that event does is said once,
by the jobs it leaves (`mem_jobs_step`), by what is known of each document
(`generation?_step`) and by what is put out (`publish_mem_step`, `clear_mem_step`). No
later proof has to look into `step` again.

Jobs only ever grow older: they are dispatched and cancelled, and in between neither their
number nor their text changes. `Job.Older` says so, and it is why a job can be told by its
number.

## Main definitions

* `Machine.after`, `Machine.outputs`: The machine after a run, and what the run put out.
* `Job.Older`: One job at a later time.
* `Machine.Carries`: What an event makes of a job.
* `Machine.Ends`: The ways in which an event ends a job.

## Theorems

* `after_append`, `outputs_append`: A run in two parts.
* `mem_jobs_step`: The jobs after an event are older ones and a new one.
* `generation?_step`: What an event does to the record of a document.
* `survives_step`: A job outlives every event that does not end it.
* `outputs_step`: What an event puts out.
* `publish_mem_step`: Only the completion of a current job publishes its result.
* `jobs_le_issued`: The number of a job has been given out.
-/

namespace RiddlEditor

/-- One job at a later time: only its two marks may have been set. -/
structure Job.Older (old job : Job) : Prop where
  generation : job.generation = old.generation
  uri : job.uri = old.uri
  text : job.text = old.text
  dispatched : old.dispatched = true → job.dispatched = true
  cancelled : old.cancelled = true → job.cancelled = true

theorem Job.Older.refl (job : Job) : job.Older job :=
  ⟨rfl, rfl, rfl, id, id⟩

theorem Job.older_cancel (job : Job) : job.Older job.cancel :=
  ⟨rfl, rfl, rfl, id, fun _ => rfl⟩

theorem Job.older_disarmed (g : Nat) (job : Job) : job.Older (job.disarmed g) := by
  unfold Job.disarmed
  split
  · exact job.older_cancel
  · exact .refl job

theorem Job.dispatched_disarmed (g : Nat) (job : Job) :
    (job.disarmed g).dispatched = job.dispatched := by
  unfold Job.disarmed
  split <;> rfl

theorem Job.older_dispatchedAt (g : Nat) (job : Job) : job.Older (job.dispatchedAt g) := by
  unfold Job.dispatchedAt
  split
  · exact ⟨rfl, rfl, rfl, fun _ => rfl, id⟩
  · exact .refl job

namespace Machine

variable {α : Type}

/-- The machine after a run from the start. -/
def after (events : List (Event α)) : Machine :=
  (initial.run events).1

/-- What a run from the start puts out. -/
def outputs (events : List (Event α)) : List (Output α) :=
  (initial.run events).2

theorem run_cons (m : Machine) (e : Event α) (rest : List (Event α)) :
    m.run (e :: rest) = (((m.step e).1.run rest).1, (m.step e).2 ++ ((m.step e).1.run rest).2) :=
  rfl

theorem run_append (m : Machine) (first rest : List (Event α)) :
    m.run (first ++ rest) =
      (((m.run first).1.run rest).1, (m.run first).2 ++ ((m.run first).1.run rest).2) := by
  induction first generalizing m with
  | nil => rfl
  | cons e first ih =>
      simp only [List.cons_append, run_cons, ih, List.append_assoc]

theorem after_append (first rest : List (Event α)) :
    after (first ++ rest) = ((after first).run rest).1 := by
  rw [after, run_append]
  rfl

theorem outputs_append (first rest : List (Event α)) :
    outputs (first ++ rest) = outputs first ++ ((after first).run rest).2 := by
  rw [outputs, run_append]
  rfl

theorem run_singleton (m : Machine) (e : Event α) : m.run [e] = m.step e := by
  simp only [run, List.append_nil]

theorem after_snoc (events : List (Event α)) (e : Event α) :
    after (events ++ [e]) = ((after events).step e).1 := by
  rw [after_append, run_singleton]

theorem outputs_snoc (events : List (Event α)) (e : Event α) :
    outputs (events ++ [e]) = outputs events ++ ((after events).step e).2 := by
  rw [outputs_append, run_singleton]

/-- What a run puts out is put out by one of its events. -/
theorem mem_outputs_run {m : Machine} {events : List (Event α)} {o : Output α}
    (h : o ∈ (m.run events).2) :
    ∃ mid e, mid ++ [e] <+: events ∧ o ∈ ((m.run mid).1.step e).2 := by
  induction events generalizing m with
  | nil => exact absurd h List.not_mem_nil
  | cons e events ih =>
      rcases List.mem_append.mp h with h | h
      · exact ⟨[], e, by simp, h⟩
      · rcases ih h with ⟨mid, last, hprefix, hlast⟩
        exact ⟨e :: mid, last, by simpa using hprefix, hlast⟩

/-! ## What one event does -/

section Step

variable {m : Machine} {e : Event α}

theorem job?_eq_some {g : Nat} {job : Job} (h : m.job? g = some job) :
    job ∈ m.jobs ∧ job.generation = g :=
  ⟨List.mem_of_find?_eq_some h, by simpa using List.find?_some h⟩

theorem validating?_eq_some {g : Nat} {job : Job} (h : m.validating? g = some job) :
    job ∈ m.jobs ∧ job.generation = g ∧ job.dispatched = true := by
  rw [validating?, Option.filter_eq_some_iff] at h
  exact ⟨(job?_eq_some h.1).1, (job?_eq_some h.1).2, h.2⟩

theorem armed?_eq_some {g : Nat} {job : Job} (h : m.armed? g = some job) :
    job ∈ m.jobs ∧ job.generation = g ∧ job.dispatched = false ∧ job.cancelled = false := by
  rw [armed?, Option.filter_eq_some_iff, Job.isArmed, Bool.and_eq_true, Bool.not_eq_true',
    Bool.not_eq_true'] at h
  exact ⟨(job?_eq_some h.1).1, (job?_eq_some h.1).2, h.2⟩

theorem cancelled?_eq_some {g : Nat} {job : Job} (h : m.cancelled? g = some job) :
    job ∈ m.jobs ∧ job.generation = g ∧ job.cancelled = true := by
  rw [cancelled?, Option.filter_eq_some_iff] at h
  exact ⟨(job?_eq_some h.1).1, (job?_eq_some h.1).2, h.2⟩

theorem issued_disarm (uri : Uri) : (m.disarm uri).issued = m.issued := by
  unfold disarm
  split <;> rfl

theorem records_disarm (uri : Uri) : (m.disarm uri).records = m.records := by
  unfold disarm
  split <;> rfl

theorem mem_jobs_remove {g : Nat} {job : Job} :
    job ∈ (m.remove g).jobs ↔ job ∈ m.jobs ∧ job.generation ≠ g := by
  simp only [remove, List.mem_filter, decide_eq_true_eq]

/-- Whether an event starts the validation of a job that has a number. -/
def Starts (m : Machine) (e : Event α) (g : Nat) : Prop :=
  ∃ found ∈ m.jobs, found.generation = g ∧ .validate g found.uri found.text ∈ (m.step e).2

/-- Whether an event tells the jobs that have a number to end. A request and a close do so
    to the newest request for their document. -/
def Cancels (m : Machine) (e : Event α) (g : Nat) : Prop :=
  e = .beginShutdown ∨
    ∃ uri, ((∃ text, e = .schedule uri text) ∨ e = .close uri) ∧ m.generation? uri = some g

/-- What an event makes of a job that it does not end. -/
structure Carries (m : Machine) (e : Event α) (old job : Job) : Prop where
  older : old.Older job
  dispatched : job.dispatched = old.dispatched ∨ m.Starts e job.generation
  cancelled : job.cancelled = old.cancelled ∨ m.Cancels e job.generation

theorem Carries.refl (m : Machine) (e : Event α) (job : Job) : m.Carries e job job :=
  ⟨.refl job, Or.inl rfl, Or.inl rfl⟩

theorem carries_of_mem_disarm {uri : Uri} {job : Job} (h : job ∈ (m.disarm uri).jobs)
    (he : (∃ text, e = .schedule uri text) ∨ e = .close uri) :
    ∃ old ∈ m.jobs, m.Carries e old job := by
  unfold disarm at h
  split at h
  · rename_i g hg
    rcases List.mem_map.mp h with ⟨old, hold, rfl⟩
    refine ⟨old, hold, old.older_disarmed g, Or.inl (old.dispatched_disarmed g), ?_⟩
    by_cases hgen : old.generation = g
    · rw [(old.older_disarmed g).generation, hgen]
      exact Or.inr (Or.inr ⟨uri, he, hg⟩)
    · rw [Job.disarmed, if_neg fun hc => hgen hc.1]
      exact Or.inl rfl
  · exact ⟨job, h, .refl m e job⟩

/-- The jobs after an event are jobs from before it and the one that a request makes. -/
theorem mem_jobs_step {job : Job} (h : job ∈ (m.step e).1.jobs) :
    (∃ old ∈ m.jobs, m.Carries e old job) ∨
      ∃ uri text, e = .schedule uri text ∧ job = ⟨m.issued + 1, uri, text, false, false⟩ := by
  have hkept : job ∈ m.jobs → ∃ old ∈ m.jobs, m.Carries e old job :=
    fun hj => ⟨job, hj, .refl m e job⟩
  cases e with
  | schedule uri text =>
      simp only [step, schedule, List.mem_append, List.mem_singleton, issued_disarm] at h
      rcases h with h | h
      · exact Or.inl (carries_of_mem_disarm h (Or.inl ⟨text, rfl⟩))
      · exact Or.inr ⟨uri, text, rfl, h⟩
  | close uri => exact Or.inl (carries_of_mem_disarm h (Or.inr rfl))
  | fire g =>
      simp only [step] at h
      split at h
      · rename_i found hfound
        split at h
        · rename_i hcur
          rcases List.mem_map.mp h with ⟨old, hold, rfl⟩
          have holder := old.older_dispatchedAt g
          by_cases hg : old.generation = g
          · -- This is the job whose timer has fired, so its validation starts.
            rcases armed?_eq_some hfound with ⟨hmem, hgen, -⟩
            refine Or.inl ⟨old, hold, holder, Or.inr ⟨found, hmem, ?_, ?_⟩, ?_⟩
            · rw [hgen, holder.generation, hg]
            · rw [holder.generation, hg]
              simp only [step, hfound, if_pos hcur, List.mem_singleton]
            · rw [Job.dispatchedAt, if_pos hg]
              exact Or.inl rfl
          · rw [Job.dispatchedAt, if_neg hg]
            exact Or.inl ⟨old, hold, .refl m _ old⟩
        · exact Or.inl (hkept (mem_jobs_remove.mp h).1)
      · exact Or.inl (hkept h)
  | complete g result =>
      simp only [step] at h
      split at h
      · exact Or.inl (hkept (mem_jobs_remove.mp h).1)
      · exact Or.inl (hkept h)
  | fail g =>
      simp only [step] at h
      split at h
      · exact Or.inl (hkept (mem_jobs_remove.mp h).1)
      · exact Or.inl (hkept h)
  | reap g =>
      simp only [step] at h
      split at h
      · exact Or.inl (hkept (mem_jobs_remove.mp h).1)
      · exact Or.inl (hkept h)
  | beginShutdown =>
      rcases List.mem_map.mp h with ⟨old, hold, rfl⟩
      exact Or.inl ⟨old, hold, old.older_cancel, Or.inl rfl, Or.inr (Or.inl rfl)⟩
  | endShutdown =>
      simp only [step] at h
      split at h <;> exact Or.inl (hkept h)

/-- The ways in which an event ends the job that has a number. -/
inductive Ends (m : Machine) : Event α → Nat → Prop where
  /-- Its validation returns a result. -/
  | complete {g : Nat} {found : Job} (result : List α) :
      m.validating? g = some found → Ends m (.complete g result) g
  /-- Its validation fails. -/
  | fail {g : Nat} {found : Job} : m.validating? g = some found → Ends m (.fail g) g
  /-- It was told to end. -/
  | reap {g : Nat} {found : Job} : m.cancelled? g = some found → Ends m (.reap g) g
  /-- Its timer fires, but there is a newer request. -/
  | expire {g : Nat} {found : Job} :
      m.armed? g = some found → m.isCurrent found = false → Ends m (.fire g) g

theorem mem_jobs_disarm (uri : Uri) {job : Job} (h : job ∈ m.jobs) :
    ∃ next ∈ (m.disarm uri).jobs, job.Older next := by
  unfold disarm
  split
  · exact ⟨_, List.mem_map_of_mem h, job.older_disarmed _⟩
  · exact ⟨job, h, .refl job⟩

/-- A job outlives every event that does not end it. -/
theorem survives_step {job : Job} (h : job ∈ m.jobs) (hends : ¬m.Ends e job.generation) :
    ∃ next ∈ (m.step e).1.jobs, job.Older next := by
  -- The job that an event removes is the one that it ends.
  have hother {g : Nat} (hg : job.generation ≠ g) : ∃ next ∈ (m.remove g).jobs, job.Older next :=
    ⟨job, mem_jobs_remove.mpr ⟨h, hg⟩, .refl job⟩
  cases e with
  | schedule uri text =>
      rcases mem_jobs_disarm uri h with ⟨next, hnext, holder⟩
      exact ⟨next, List.mem_append_left _ hnext, holder⟩
  | close uri => exact mem_jobs_disarm uri h
  | fire g =>
      simp only [step]
      split
      · rename_i found hfound
        split
        · exact ⟨_, List.mem_map_of_mem h, job.older_dispatchedAt g⟩
        · rename_i hcur
          exact hother fun hg => hends (by rw [hg]; exact .expire hfound (Bool.not_eq_true _ ▸ hcur))
      · exact ⟨job, h, .refl job⟩
  | complete g result =>
      simp only [step]
      split
      · rename_i found hfound
        exact hother fun hg => hends (by rw [hg]; exact .complete result hfound)
      · exact ⟨job, h, .refl job⟩
  | fail g =>
      simp only [step]
      split
      · rename_i found hfound
        exact hother fun hg => hends (by rw [hg]; exact .fail hfound)
      · exact ⟨job, h, .refl job⟩
  | reap g =>
      simp only [step]
      split
      · rename_i found hfound
        exact hother fun hg => hends (by rw [hg]; exact .reap hfound)
      · exact ⟨job, h, .refl job⟩
  | beginShutdown => exact ⟨_, List.mem_map_of_mem h, job.older_cancel⟩
  | endShutdown =>
      simp only [step]
      split <;> exact ⟨job, h, .refl job⟩

theorem issued_step_schedule (uri : Uri) (text : Text) :
    (m.step (.schedule uri text : Event α)).1.issued = m.issued + 1 := by
  simp only [step, schedule, issued_disarm]

/-- Only a request is given a number. -/
theorem issued_step (h : ∀ uri text, e ≠ .schedule uri text) :
    (m.step e).1.issued = m.issued := by
  cases e with
  | schedule uri text => exact absurd rfl (h uri text)
  | close uri => exact issued_disarm uri
  | beginShutdown => rfl
  | fire g =>
      simp only [step]
      split
      · split <;> rfl
      · rfl
  | complete g result => simp only [step]; split <;> rfl
  | fail g => simp only [step]; split <;> rfl
  | reap g => simp only [step]; split <;> rfl
  | endShutdown => simp only [step]; split <;> rfl

theorem issued_le_step (m : Machine) (e : Event α) : m.issued ≤ (m.step e).1.issued := by
  by_cases h : ∃ uri text, e = .schedule uri text
  · rcases h with ⟨uri, text, rfl⟩
    rw [issued_step_schedule]
    exact Nat.le_succ _
  · exact Nat.le_of_eq (issued_step fun uri text he => h ⟨uri, text, he⟩).symm

/-- What an event does to the record of a document: a request replaces it, a close drops
    it, and a shutdown that is complete drops them all. -/
theorem generation?_step (m : Machine) (e : Event α) (uri : Uri) :
    (m.step e).1.generation? uri =
      match e with
      | .schedule other _ => if uri = other then some (m.issued + 1) else m.generation? uri
      | .close other => if uri = other then none else m.generation? uri
      | .endShutdown => if m.jobs = [] then none else m.generation? uri
      | _ => m.generation? uri := by
  cases e with
  | schedule other text =>
      simp only [step, schedule, generation?, issued_disarm, records_disarm, UriMap.get?_set]
  | close other => simp only [step, close, generation?, records_disarm, UriMap.get?_erase]
  | beginShutdown => rfl
  | fire g =>
      simp only [step]
      split
      · split <;> rfl
      · rfl
  | complete g result => simp only [step]; split <;> rfl
  | fail g => simp only [step]; split <;> rfl
  | reap g => simp only [step]; split <;> rfl
  | endShutdown =>
      simp only [step, List.isEmpty_iff]
      split <;> rfl

/-- A document that has a record after an event was requested by the event, or had the
    record before and the event did not take it back. -/
theorem generation?_step_eq_some {uri : Uri} {g : Nat}
    (h : (m.step e).1.generation? uri = some g) :
    (∃ text, e = .schedule uri text ∧ g = m.issued + 1) ∨
      (m.generation? uri = some g ∧ (∀ text, e ≠ .schedule uri text) ∧ e ≠ .close uri ∧
        (e = .endShutdown → m.jobs ≠ [])) := by
  rw [generation?_step] at h
  cases e with
  | schedule other text =>
      simp only at h
      by_cases hu : uri = other
      · rw [if_pos hu, Option.some.injEq] at h
        exact Or.inl ⟨text, by rw [hu], h.symm⟩
      · rw [if_neg hu] at h
        refine Or.inr ⟨h, fun newer he => ?_, by simp, by simp⟩
        injection he with hother
        exact hu hother.symm
  | close other =>
      simp only at h
      by_cases hu : uri = other
      · rw [if_pos hu] at h
        exact absurd h (by simp)
      · rw [if_neg hu] at h
        refine Or.inr ⟨h, by simp, fun he => ?_, by simp⟩
        injection he with hother
        exact hu hother.symm
  | endShutdown =>
      simp only at h
      by_cases hjobs : m.jobs = []
      · rw [if_pos hjobs] at h
        exact absurd h (by simp)
      · rw [if_neg hjobs] at h
        exact Or.inr ⟨h, by simp, by simp, fun _ => hjobs⟩
  | fire g' => exact Or.inr ⟨h, by simp, by simp, by simp⟩
  | complete g' result => exact Or.inr ⟨h, by simp, by simp, by simp⟩
  | fail g' => exact Or.inr ⟨h, by simp, by simp, by simp⟩
  | reap g' => exact Or.inr ⟨h, by simp, by simp, by simp⟩
  | beginShutdown => exact Or.inr ⟨h, by simp, by simp, by simp⟩

/-- An event that is no call for a document keeps its record, unless it completes a
    shutdown. -/
theorem generation?_step_eq {uri : Uri} (hschedule : ∀ text, e ≠ .schedule uri text)
    (hclose : e ≠ .close uri) (hshutdown : e ≠ .endShutdown) :
    (m.step e).1.generation? uri = m.generation? uri := by
  rw [generation?_step]
  cases e with
  | schedule other text =>
      exact if_neg fun hu => hschedule text (by rw [hu])
  | close other => exact if_neg fun hu => hclose (by rw [hu])
  | endShutdown => exact absurd rfl hshutdown
  | fire g => rfl
  | complete g result => rfl
  | fail g => rfl
  | reap g => rfl
  | beginShutdown => rfl

/-- What an event puts out: nothing, or one thing. A close takes results back, a timer that
    fires starts a validation, and a validation that returns publishes its result, the last
    two only for the newest request of a document. -/
theorem outputs_step (m : Machine) (e : Event α) :
    (m.step e).2 = [] ∨
    (∃ uri, e = .close uri ∧ (m.step e).2 = [.clear uri]) ∨
    (∃ g job, e = .fire g ∧ m.armed? g = some job ∧ m.isCurrent job = true ∧
      (m.step e).2 = [.validate g job.uri job.text]) ∨
    ∃ g result job, e = .complete g result ∧ m.validating? g = some job ∧
      m.isCurrent job = true ∧ (m.step e).2 = [.publish g job.uri result] := by
  cases e with
  | close uri => exact Or.inr (Or.inl ⟨uri, rfl, rfl⟩)
  | fire g =>
      rcases hfound : m.armed? g with _ | job
      · simp only [step, hfound, true_or]
      · by_cases hcur : m.isCurrent job = true
        · exact Or.inr (Or.inr (Or.inl
            ⟨g, job, rfl, hfound, hcur, by simp only [step, hfound, if_pos hcur]⟩))
        · simp only [step, hfound, if_neg hcur, true_or]
  | complete g result =>
      rcases hfound : m.validating? g with _ | job
      · simp only [step, hfound, true_or]
      · by_cases hcur : m.isCurrent job = true
        · exact Or.inr (Or.inr (Or.inr
            ⟨g, result, job, rfl, hfound, hcur, by simp only [step, hfound, if_pos hcur]⟩))
        · simp only [step, hfound, if_neg hcur, true_or]
  | schedule uri text => exact Or.inl rfl
  | fail g => simp only [step]; split <;> exact Or.inl rfl
  | reap g => simp only [step]; split <;> exact Or.inl rfl
  | beginShutdown => exact Or.inl rfl
  | endShutdown => exact Or.inl rfl

/-- A result is published when the validation of a job returns it, and only if the job is
    still the newest request for its document. -/
theorem publish_mem_step {g : Nat} {uri : Uri} {result : List α}
    (h : .publish g uri result ∈ (m.step e).2) :
    e = .complete g result ∧
      ∃ job, m.validating? g = some job ∧ job.uri = uri ∧ m.generation? uri = some g := by
  rcases outputs_step m e with ho | ⟨_, -, ho⟩ | ⟨_, _, -, -, -, ho⟩ |
    ⟨g', result', job, rfl, hjob, hcur, ho⟩
  · rw [ho] at h
    exact absurd h List.not_mem_nil
  · simp only [ho, List.mem_singleton, reduceCtorEq] at h
  · simp only [ho, List.mem_singleton, reduceCtorEq] at h
  · rw [ho, List.mem_singleton] at h
    injection h with hg hu hr
    subst hg hu hr
    rw [isCurrent, decide_eq_true_eq, (validating?_eq_some hjob).2.1] at hcur
    exact ⟨rfl, job, hjob, rfl, hcur⟩

/-- Only a close takes the results of a document back. -/
theorem clear_mem_step {uri : Uri} (h : .clear uri ∈ (m.step e).2) : e = .close uri := by
  rcases outputs_step m e with ho | ⟨_, rfl, ho⟩ | ⟨_, _, -, -, -, ho⟩ | ⟨_, _, _, -, -, -, ho⟩
  · rw [ho] at h
    exact absurd h List.not_mem_nil
  · simp only [ho, List.mem_singleton, Output.clear.injEq] at h
    rw [h]
  · simp only [ho, List.mem_singleton, reduceCtorEq] at h
  · simp only [ho, List.mem_singleton, reduceCtorEq] at h

/-- The completion of a job ends it. -/
theorem not_mem_jobs_complete {g : Nat} {result : List α} {found job : Job}
    (hfound : m.validating? g = some found)
    (h : job ∈ (m.step (.complete g result)).1.jobs) : job.generation ≠ g := by
  simp only [step, hfound] at h
  exact (mem_jobs_remove.mp h).2

/-- The failure of a job ends it. -/
theorem not_mem_jobs_fail {g : Nat} {found job : Job} (hfound : m.validating? g = some found)
    (h : job ∈ (m.step (.fail g : Event α)).1.jobs) : job.generation ≠ g := by
  simp only [step, hfound] at h
  exact (mem_jobs_remove.mp h).2

end Step

theorem issued_le_append (first rest : List (Event α)) :
    (after first).issued ≤ (after (first ++ rest)).issued := by
  induction rest using List.reverseRecOn with
  | nil => exact Nat.le_of_eq (by rw [List.append_nil])
  | append_singleton rest e ih =>
      rw [← List.append_assoc, after_snoc]
      exact Nat.le_trans ih (issued_le_step _ e)

/-- The number of a job has been given out. -/
theorem jobs_le_issued (events : List (Event α)) :
    ∀ job ∈ (after events).jobs, job.generation ≤ (after events).issued := by
  induction events using List.reverseRecOn with
  | nil => exact fun job h => absurd h List.not_mem_nil
  | append_singleton events e ih =>
      intro job h
      rw [after_snoc] at h ⊢
      rcases mem_jobs_step h with ⟨old, hold, hcarries⟩ | ⟨uri, text, rfl, rfl⟩
      · rw [hcarries.older.generation]
        exact Nat.le_trans (ih old hold) (issued_le_step _ e)
      · exact Nat.le_of_eq (issued_step_schedule uri text).symm

end Machine

end RiddlEditor
