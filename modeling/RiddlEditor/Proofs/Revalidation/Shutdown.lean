import RiddlEditor.Proofs.Revalidation.Behind
import RiddlEditor.Proofs.Revalidation.Records

/-!
# Shutdown

A shutdown tells all jobs to end, waits until none is left and then forgets the documents. The
jobs may be in any state when it is asked for: their timers may run, their validations may run
or have a result already, and there may be a newer request for the document.

Whatever the state was, the job of an older request is a cancelled one from then on
(`cancelled_of_le`), so it publishes nothing if its validation heeds the cancellation
(`not_published`). While no request is made, the jobs that are left are among those that were
there, so the wait is over when each of these has ended (`jobs_eq_nil_iff`). What is left then
is the machine that has counted the requests and nothing else (`after_endShutdown`), and it
goes on as one from the start does (`startsAnew_behind`).

In a timeline, all jobs end at once. Its shutdown leaves the same machine, and nobody waits
(`Timeline.shutdown_eq`).

## Main definitions

* `Machine.EndsIn`: A job ends in a run.
* `Machine.Heeds`: The validations of a run heed cancellations.
* `Machine.StartsAnew`: A run that is like one from the start.

## Theorems

* `Ends.generation_ne`, `EndsIn.generation_ne`: What has ended is gone for good.
* `alive_or_endsIn`, `jobs_eq_nil_iff`: When the wait is over.
* `not_published`: What was told to end publishes nothing.
* `after_endShutdown`, `startsAnew_behind`: What is left, and how it goes on.
* `run_reaps`, `Timeline.shutdown_eq`: The shutdown of a timeline.
* `shutdown_is_clean`: A shutdown from any state.
-/

namespace RiddlEditor

namespace Machine

variable {α : Type}

/-- Whether the job that has a number ends in a run. -/
def EndsIn (m : Machine) (events : List (Event α)) (g : Nat) : Prop :=
  ∃ mid e, mid ++ [e] <+: events ∧ (m.run mid).1.Ends e g

/-- Whether the validations of a run heed cancellations: none that was told to end returns a
    result. -/
def Heeds (m : Machine) (events : List (Event α)) : Prop :=
  ∀ mid g result job, mid ++ [.complete g result] <+: events →
    (m.run mid).1.validating? g = some job → job.cancelled = false

/-- A run goes on as one from the start does, with numbers above `n`. The events of the run
    from the start have the numbers counted from `n`; an event that has a number from before is
    for no job, and counted from `n` it has the number zero, which no job has. -/
structure StartsAnew (m : Machine) (n : Nat) (later : List (Event α)) : Prop where
  outputs : (m.run later).2 =
    (outputs (later.map (Event.renumber (· - n)))).map (Output.renumber (n + ·))
  issued : (m.run later).1.issued = n + (after (later.map (Event.renumber (· - n)))).issued
  record : ∀ uri, (m.run later).1.generation? uri =
    ((after (later.map (Event.renumber (· - n)))).generation? uri).map (n + ·)
  pending : ∀ uri, (m.run later).1.isPending uri =
    (after (later.map (Event.renumber (· - n)))).isPending uri

/-! ## The wait -/

section Wait

variable {first more : List (Event α)} {job : Job} {g : Nat}

/-- What an event ends is gone after it. -/
theorem Ends.generation_ne {m : Machine} {e : Event α} (h : m.Ends e g)
    (hjob : job ∈ (m.step e).1.jobs) : job.generation ≠ g := by
  cases h with
  | complete result hfound => exact not_mem_jobs_complete hfound hjob
  | fail hfound => exact not_mem_jobs_fail hfound hjob
  | reap hfound =>
      simp only [step, hfound] at hjob
      exact (mem_jobs_remove.mp hjob).2
  | expire hfound hcur =>
      simp only [step, hfound, hcur, Bool.false_eq_true, if_false] at hjob
      exact (mem_jobs_remove.mp hjob).2

/-- What has ended in a run does not come back, since its number is not given out again. -/
theorem EndsIn.generation_ne (h : EndsIn (after first) more g) (hg : g ≤ (after first).issued)
    (hjob : job ∈ (after (first ++ more)).jobs) : job.generation ≠ g := by
  rintro rfl
  rcases h with ⟨mid, e, ⟨rest, rfl⟩, hends⟩
  have hle := Nat.le_trans hg (issued_le_append first (mid ++ [e]))
  rw [← List.append_assoc] at hjob
  rcases exists_older_of_le hjob hle with ⟨old, hold, holder⟩
  rw [← List.append_assoc, after_snoc, after_append] at hold
  exact hends.generation_ne hold holder.generation.symm

/-- A job that does not end in a run is alive after it. -/
theorem alive_or_endsIn (hjob : job ∈ (after first).jobs) :
    (∃ next ∈ (after (first ++ more)).jobs, job.Older next) ∨
      EndsIn (after first) more job.generation := by
  induction more using List.reverseRecOn with
  | nil =>
      rw [List.append_nil]
      exact Or.inl ⟨job, hjob, .refl job⟩
  | append_singleton more e ih =>
      rcases ih with ⟨next, hnext, holder⟩ | ⟨mid, last, hpart, hends⟩
      · by_cases hends : (after (first ++ more)).Ends e job.generation
        · exact Or.inr ⟨more, e, List.prefix_rfl, after_append first more ▸ hends⟩
        · rw [← holder.generation] at hends
          rcases survives_step hnext hends with ⟨final, hfinal, hlast⟩
          rw [← List.append_assoc, after_snoc]
          exact Or.inl ⟨final, hfinal, holder.trans hlast⟩
      · exact Or.inr ⟨mid, last, hpart.trans (List.prefix_append more [e]), hends⟩

/-- While no request is made, no job is left if and only if those that were there have ended. -/
theorem jobs_eq_nil_iff (hmore : ∀ uri text, .schedule uri text ∉ more) :
    (after (first ++ more)).jobs = [] ↔
      ∀ job ∈ (after first).jobs, EndsIn (after first) more job.generation := by
  constructor
  · intro hnil job hjob
    rcases alive_or_endsIn hjob with ⟨next, hnext, -⟩ | hends
    · rw [hnil] at hnext
      exact absurd hnext List.not_mem_nil
    · exact hends
  · intro hends
    refine List.eq_nil_iff_forall_not_mem.mpr fun job hjob => ?_
    rcases exists_older_of_mem_jobs hmore hjob with ⟨old, hold, holder⟩
    exact (hends old hold).generation_ne (jobs_le_issued first old hold) hjob holder.generation

end Wait

/-! ## What was told to end -/

section Told

variable {first later : List (Event α)} {job : Job}

/-- The job of a request from before a shutdown is a cancelled one. -/
theorem cancelled_of_le (h : job ∈ (after (first ++ .beginShutdown :: later)).jobs)
    (hle : job.generation ≤ (after first).issued) : job.cancelled = true := by
  rw [List.append_cons] at h
  rcases exists_older_of_le h (Nat.le_trans hle (issued_le_append first _)) with
    ⟨old, hold, holder⟩
  rw [after_snoc] at hold
  rcases List.mem_map.mp hold with ⟨_, -, rfl⟩
  exact holder.cancelled rfl

/-- A shutdown is no request. -/
theorem not_requested_beginShutdown (hlater : ∀ uri text, .schedule uri text ∉ later) (uri : Uri)
    (text : Text) : .schedule uri text ∉ .beginShutdown :: later :=
  List.not_mem_cons_of_ne_of_not_mem (by simp) (hlater uri text)

/-- While no request is made, all jobs are cancelled ones. -/
theorem cancelled_of_mem_jobs (hlater : ∀ uri text, .schedule uri text ∉ later)
    (h : job ∈ (after (first ++ .beginShutdown :: later)).jobs) : job.cancelled = true := by
  have hle := jobs_le_issued _ job h
  rw [issued_append (not_requested_beginShutdown hlater)] at hle
  exact cancelled_of_le h hle

/-- What was told to end by a shutdown can end at any time. -/
theorem ends_reap (hlater : ∀ uri text, .schedule uri text ∉ later)
    (h : job ∈ (after (first ++ .beginShutdown :: later)).jobs) :
    (after (first ++ .beginShutdown :: later)).Ends (.reap job.generation : Event α)
      job.generation := by
  have hfound : (after (first ++ .beginShutdown :: later)).cancelled? job.generation =
      some job := by
    rw [cancelled?, job?_of_mem h, Option.filter_some, cancelled_of_mem_jobs hlater h]
    rfl
  exact .reap hfound

/-- What was told to end by a shutdown publishes nothing. -/
theorem not_published (hheeds : Heeds (after (first ++ [.beginShutdown])) later)
    (hjob : job ∈ (after first).jobs) (uri : Uri) (result : List α) :
    .publish job.generation uri result ∉ ((after first).run (.beginShutdown :: later)).2 := by
  intro h
  have hrun : ((after first).run (.beginShutdown :: later)).2 =
      ((after (first ++ [.beginShutdown])).run later).2 := by
    rw [after_snoc]
    rfl
  rw [hrun] at h
  rcases mem_outputs_run h with ⟨mid, e, hpart, hout⟩
  obtain ⟨rfl, found, hfound, -⟩ := publish_mem_step hout
  have hkept := hheeds mid job.generation result found hpart hfound
  rcases validating?_eq_some hfound with ⟨hmem, hgen, -⟩
  rw [← after_append, ← List.append_cons] at hmem
  have hcancelled := cancelled_of_le hmem (hgen ▸ jobs_le_issued first job hjob)
  exact absurd (hkept.symm.trans hcancelled) Bool.false_ne_true

end Told

/-! ## What is left -/

/-- When a shutdown is complete, the machine knows how far it has counted and nothing else. -/
theorem after_endShutdown {events : List (Event α)} (h : (after events).jobs = []) :
    after (events ++ [.endShutdown]) = initial.behind (after events).issued := by
  rw [after_snoc]
  simp only [step, h, List.isEmpty_nil, if_true]
  rfl

theorem startsAnew_behind (n : Nat) (later : List (Event α)) :
    StartsAnew (initial.behind n) n later := by
  have hrun := run_behind (n := n) Positive.initial later
  constructor
  · rw [hrun]
    rfl
  · rw [hrun]
    rfl
  · intro uri
    rw [hrun]
    exact generation?_behind uri
  · intro uri
    rw [hrun]
    exact isPending_behind (positive_after _) uri

/-! ## Timelines -/

/-- Where all jobs were told to end, one that ends is removed. -/
theorem step_reap_of_cancelled {m : Machine} (h : ∀ job ∈ m.jobs, job.cancelled = true)
    (g : Nat) : m.step (.reap g : Event α) = (m.remove g, []) := by
  rcases hfound : m.job? g with _ | job
  · -- Without a job of this number there is nothing to remove.
    have hremove : m.jobs.filter (fun job => job.generation ≠ g) = m.jobs := by
      refine List.filter_eq_self.mpr fun job hjob => decide_eq_true fun hgen => ?_
      exact List.find?_eq_none.mp hfound job hjob (decide_eq_true hgen)
    simp only [step, cancelled?, hfound, Option.filter_none, remove, hremove]
  · have hcancelled := h job (job?_eq_some hfound).1
    simp only [step, cancelled?, hfound, Option.filter_some, hcancelled, if_true]

/-- Where all jobs were told to end, they can end one after the other, without a word. -/
theorem run_reaps {m : Machine} (h : ∀ job ∈ m.jobs, job.cancelled = true) (jobs : List Job) :
    m.run (jobs.map fun job => (.reap job.generation : Event α)) =
      ({ m with jobs := m.jobs.filter fun job => job.generation ∉ jobs.map Job.generation },
        []) := by
  induction jobs generalizing m with
  | nil =>
      have hall : m.jobs.filter (fun job => job.generation ∉ ([] : List Job).map Job.generation) =
          m.jobs := List.filter_eq_self.mpr fun job _ => decide_eq_true List.not_mem_nil
      rw [hall]
      rfl
  | cons first jobs ih =>
      have hrest : ∀ job ∈ (m.remove first.generation).jobs, job.cancelled = true :=
        fun job hjob => h job (mem_jobs_remove.mp hjob).1
      rw [List.map_cons, run_cons, step_reap_of_cancelled h, ih hrest, remove, List.filter_filter]
      simp only [List.map_cons, List.mem_cons, not_or, Bool.decide_and, ne_eq, Bool.and_comm,
        List.append_nil]

theorem run_reaps_all {m : Machine} (h : ∀ job ∈ m.jobs, job.cancelled = true) :
    m.run (m.jobs.map fun job => (.reap job.generation : Event α)) =
      ({ m with jobs := [] }, []) := by
  have hnone : m.jobs.filter (fun job => job.generation ∉ m.jobs.map Job.generation) = [] :=
    List.filter_eq_nil_iff.mpr fun job hjob hkept =>
      of_decide_eq_true hkept (List.mem_map_of_mem hjob)
  rw [run_reaps h, hnone]

end Machine

namespace Timeline

variable {α : Type}

/-- Where all jobs were told to end, all of them do. -/
theorem settle_of_cancelled {t : Timeline α} (h : ∀ job ∈ t.machine.jobs, job.cancelled = true) :
    t.settle = { t with machine := { t.machine with jobs := [] } } := by
  have hall : t.machine.jobs.filter Job.cancelled = t.machine.jobs := List.filter_eq_self.mpr h
  have hsequence := sequence_apply (fun job : Job => .reap job.generation) t t.machine.jobs
  rw [settle, hall, hsequence, Machine.run_reaps_all h]

/-- After the shutdown of a timeline its machine is one that has counted the requests and
    nothing else, and nobody waits. -/
theorem shutdown_eq (t : Timeline α) :
    t.shutdown = { t with
      machine := Machine.initial.behind t.machine.issued, timers := [], waiters := [] } := by
  have hcancelled : ∀ job ∈ (t.apply .beginShutdown).1.machine.jobs, job.cancelled = true := by
    intro job hjob
    rcases List.mem_map.mp hjob with ⟨_, -, rfl⟩
    rfl
  simp only [shutdown, settle_of_cancelled hcancelled]
  rfl

end Timeline

namespace Machine

variable {α : Type}

/-- A shutdown is clean, whatever the state it is asked for in.

    If no request is made while it waits, the wait is over when each job that was alive has
    ended, and each of them can end at any time. Once it is complete, no job is alive, no
    document has a record, and every run goes on as one from the start does, but with numbers
    above those from before. From the call on, no job that was alive publishes anything, if
    validations heed cancellations. Every later request has a greater number than every earlier
    one. The shutdown of a timeline is complete when it returns. -/
theorem shutdown_is_clean (first : List (Event α)) :
    (∀ waiting : List (Event α), (∀ uri text, .schedule uri text ∉ waiting) →
      ((after (first ++ .beginShutdown :: waiting)).jobs = [] ↔
        ∀ job ∈ (after first).jobs,
          EndsIn (after first) (.beginShutdown :: waiting) job.generation) ∧
      (∀ job ∈ (after (first ++ .beginShutdown :: waiting)).jobs,
        (after (first ++ .beginShutdown :: waiting)).Ends (.reap job.generation : Event α)
          job.generation) ∧
      ((∀ job ∈ (after first).jobs,
          EndsIn (after first) (.beginShutdown :: waiting) job.generation) →
        let closed := after (first ++ .beginShutdown :: waiting ++ [.endShutdown])
        closed.jobs = [] ∧ (∀ uri, closed.generation? uri = none) ∧
          ∀ later : List (Event α), StartsAnew closed (after first).issued later)) ∧
    (∀ later : List (Event α), Heeds (after (first ++ [.beginShutdown])) later →
      ∀ job ∈ (after first).jobs, ∀ uri result,
        .publish job.generation uri result ∉ ((after first).run (.beginShutdown :: later)).2) ∧
    (∀ before uri text, before ++ [.schedule uri text] <+: first →
      ∀ (later : List (Event α)) uri' text',
      (after (before ++ [.schedule uri text])).issued <
        (after (first ++ .beginShutdown :: later ++ [.schedule uri' text'])).issued) ∧
    ∀ t : Timeline α, t.machine = after first →
      t.shutdown = { t with
        machine := initial.behind (after first).issued, timers := [], waiters := [] } := by
  refine ⟨fun waiting hwaiting => ?_, fun later hheeds job hjob => not_published hheeds hjob,
    ?_, fun t ht => ht ▸ t.shutdown_eq⟩
  · have hcalls := not_requested_beginShutdown hwaiting
    refine ⟨jobs_eq_nil_iff hcalls, fun job => ends_reap hwaiting, fun hends => ?_⟩
    -- What is left has only counted.
    have hclosed := after_endShutdown ((jobs_eq_nil_iff hcalls).mpr hends)
    rw [issued_append hcalls] at hclosed
    simp only [hclosed]
    exact ⟨rfl, fun uri => rfl, startsAnew_behind _⟩
  · intro before uri text hpart later uri' text'
    rcases hpart with ⟨rest, rfl⟩
    have hfirst := issued_le_append (before ++ [.schedule uri text]) rest
    have hlater := issued_le_append (before ++ [.schedule uri text] ++ rest)
      (.beginShutdown :: later)
    rw [after_snoc (_ ++ _ :: later), issued_step_schedule]
    exact Nat.lt_succ_of_le (Nat.le_trans hfirst hlater)

/-- A shutdown while the timer of one document runs and another one, which is being validated,
    was requested again. -/
theorem shutdown_is_clean_while_validating :
    let first : List (Event Nat) :=
      [.schedule "a" [], .schedule "b" [], .fire 2, .schedule "b" ['x']]
    let waiting : List (Event Nat) := [.reap 3, .reap 1, .reap 2]
    let later : List (Event Nat) := [.schedule "a" ['y'], .fire 4, .complete 4 [7]]
    StartsAnew (after (first ++ .beginShutdown :: waiting ++ [.endShutdown])) 3 later ∧
      .publish 2 "b" [5] ∉ ((after first).run (.beginShutdown :: waiting)).2 := by
  intro first waiting later
  have hclean := shutdown_is_clean first
  have hwaiting := hclean.1 waiting (by simp [waiting])
  refine ⟨(hwaiting.2.2 (hwaiting.1.mp rfl)).2.2 later, ?_⟩
  -- No validation returns a result any more, so all of them heed the shutdown.
  have hheeds : Heeds (after (first ++ [.beginShutdown])) waiting := by
    intro mid g result job hpart _
    have hmem := hpart.subset (List.mem_append_right mid (List.mem_singleton_self _))
    simp [waiting] at hmem
  have hjob : ⟨2, "b", [], true, false⟩ ∈ (after first).jobs :=
    List.mem_cons_of_mem _ List.mem_cons_self
  exact hclean.2.1 waiting hheeds _ hjob "b" [5]

end Machine

end RiddlEditor
