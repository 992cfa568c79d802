import Mathlib.Data.List.Nodup
import RiddlEditor.Proofs.Revalidation.Quiescence
import RiddlEditor.Proofs.Revalidation.Timeline

/-!
# One validation for a pause

A request is validated if its timer fires before anything takes the request back, and only
then. A newer request for the document, a close of it and a shutdown take back what still
waits; what is being validated already is left alone by requests and closes. A timer has fired
when its job goes on. A call that comes after the delay is over but in front of that is still in
time to take the request back.

The number of a request says whether its job still waits. Jobs have different numbers
(`generations_nodup`), so a request has one job at most, and the job is dispatched when its
validation starts. A second validation would need a job with the same number that was not
dispatched (`dispatched_of_validated`), and a job that was taken back has either been cancelled
or lost its record (`not_withdrawn`). In the other direction, what was not taken back is still
there when its timer fires (`live_until_fired`).

## Main definitions

* `Output.validated?`: The request that a validation is started for.
* `Event.Withdraws`: What takes a request back.
* `Machine.FiresFirst`: A timer that fires while nothing has taken its request back.
* `Machine.Debounced`: What becomes of a request.

## Theorems

* `validate_mem_step`: Only a timer that fires starts a validation.
* `validations_nodup`: No request is validated twice.
* `request_of_validated`: Every validation is that of a request.
* `validate_iff_firesFirst`: Which requests are validated.
* `not_validated_of_withdrawn`: What was taken back is not validated.
* `mem_jobs_call`, `started_or_ended`: Calls do not touch what is being validated.
* `debounced`: Every request is debounced.
-/

namespace RiddlEditor

/-- The number of the request that a validation is started for. -/
def Output.validated? {α : Type} : Output α → Option Nat
  | .validate g _ _ => some g
  | _ => none

/-- Whether an event takes back the requests for a document that still wait. -/
def Event.Withdraws {α : Type} (uri : Uri) (e : Event α) : Prop :=
  (∃ text, e = .schedule uri text) ∨ e = .close uri ∨ e = .beginShutdown

theorem Job.Older.trans {old job next : Job} (h : old.Older job) (hnext : job.Older next) :
    old.Older next where
  generation := hnext.generation.trans h.generation
  uri := hnext.uri.trans h.uri
  text := hnext.text.trans h.text
  dispatched := fun hd => hnext.dispatched (h.dispatched hd)
  cancelled := fun hc => hnext.cancelled (h.cancelled hc)

/-- What is not dispatched was not dispatched before. -/
theorem Job.Older.dispatched_eq_false {old job : Job} (h : old.Older job)
    (hjob : job.dispatched = false) : old.dispatched = false :=
  Bool.eq_false_iff.mpr fun hold => absurd (h.dispatched hold) (Bool.eq_false_iff.mp hjob)

/-- What is not cancelled was not cancelled before. -/
theorem Job.Older.cancelled_eq_false {old job : Job} (h : old.Older job)
    (hjob : job.cancelled = false) : old.cancelled = false :=
  Bool.eq_false_iff.mpr fun hold => absurd (h.cancelled hold) (Bool.eq_false_iff.mp hjob)

namespace Machine

variable {α : Type}

/-- Whether the timer of a request fires among the events that come after the request, and
    nothing in front of it takes the request back. -/
def FiresFirst (uri : Uri) (g : Nat) (later : List (Event α)) : Prop :=
  ∃ mid rest, later = mid ++ .fire g :: rest ∧ ∀ e ∈ mid, ¬e.Withdraws uri

/-- A timer may fire again later on, which does nothing, so it is its first time that counts. -/
theorem FiresFirst.exists_first {uri : Uri} {g : Nat} {later : List (Event α)}
    (h : FiresFirst uri g later) :
    ∃ mid rest, later = mid ++ .fire g :: rest ∧ .fire g ∉ mid ∧ ∀ e ∈ mid, ¬e.Withdraws uri := by
  rcases h with ⟨mid, rest, rfl, hkept⟩
  by_cases hfire : .fire g ∈ mid
  · rcases List.eq_append_cons_of_mem hfire with ⟨first, last, rfl, hfirst⟩
    refine ⟨first, _, List.append_assoc _ _ _, hfirst, fun e he => hkept e ?_⟩
    exact List.mem_append_left _ he
  · exact ⟨mid, rest, rfl, hfire, hkept⟩

theorem noCalls_of_not_withdrawn {uri : Uri} {later : List (Event α)}
    (h : ∀ e ∈ later, ¬e.Withdraws uri) : NoCalls uri later where
  not_scheduled := fun text hmem => h _ hmem (Or.inl ⟨text, rfl⟩)
  not_closed := fun hmem => h _ hmem (Or.inr (Or.inl rfl))

/-! ## The numbers of jobs -/

section Numbers

variable {m : Machine} {e : Event α}

/-- Jobs that grow older keep their numbers. -/
theorem generations_map {f : Job → Job} (hf : ∀ job : Job, job.Older (f job)) (jobs : List Job) :
    (jobs.map f).map Job.generation = jobs.map Job.generation := by
  rw [List.map_map]
  exact List.map_congr_left fun job _ => (hf job).generation

theorem generations_disarm (m : Machine) (uri : Uri) :
    (m.disarm uri).jobs.map Job.generation = m.jobs.map Job.generation := by
  unfold disarm
  split
  · exact generations_map (Job.older_disarmed _) m.jobs
  · rfl

/-- An event leaves some of the jobs, under their numbers, and a request adds one. -/
theorem generations_step (m : Machine) (e : Event α) :
    ((m.step e).1.jobs.map Job.generation).Sublist (m.jobs.map Job.generation ++ [m.issued + 1]) := by
  have hkept : (m.jobs.map Job.generation).Sublist (m.jobs.map Job.generation ++ [m.issued + 1]) :=
    List.sublist_append_left _ _
  have hremove (g : Nat) : ((m.remove g).jobs.map Job.generation).Sublist
      (m.jobs.map Job.generation ++ [m.issued + 1]) :=
    (List.filter_sublist.map _).trans hkept
  cases e with
  | schedule uri text =>
      simp only [step, schedule, List.map_append, generations_disarm, issued_disarm]
      exact List.Sublist.refl _
  | close uri =>
      change List.Sublist ((m.disarm uri).jobs.map Job.generation) _
      rwa [generations_disarm]
  | fire g =>
      simp only [step]
      split
      · split
        · rwa [dispatch, generations_map (Job.older_dispatchedAt g)]
        · exact hremove g
      · exact hkept
  | complete g result =>
      simp only [step]
      split
      · exact hremove g
      · exact hkept
  | fail g =>
      simp only [step]
      split
      · exact hremove g
      · exact hkept
  | reap g =>
      simp only [step]
      split
      · exact hremove g
      · exact hkept
  | beginShutdown =>
      simp only [step]
      rwa [generations_map Job.older_cancel]
  | endShutdown =>
      simp only [step]
      split <;> exact hkept

/-- The jobs of a run have different numbers. -/
theorem generations_nodup (events : List (Event α)) :
    ((after events).jobs.map Job.generation).Nodup := by
  induction events using List.reverseRecOn with
  | nil => exact List.nodup_nil
  | append_singleton events e ih =>
      rw [after_snoc]
      refine (generations_step (after events) e).nodup (List.nodup_append.mpr
        ⟨ih, List.nodup_singleton _, fun g hold new hnew => ?_⟩)
      rcases List.mem_map.mp hold with ⟨job, hjob, rfl⟩
      have hle := jobs_le_issued events job hjob
      rw [List.mem_singleton.mp hnew]
      omega

theorem job_eq_of_generation_eq {events : List (Event α)} {job other : Job}
    (hjob : job ∈ (after events).jobs) (hother : other ∈ (after events).jobs)
    (hgen : other.generation = job.generation) : other = job :=
  List.inj_on_of_nodup_map (generations_nodup events) hother hjob hgen

/-- A job is found under its number. -/
theorem job?_of_mem {events : List (Event α)} {job : Job} (h : job ∈ (after events).jobs) :
    (after events).job? job.generation = some job := by
  have hsome : ((after events).job? job.generation).isSome :=
    List.find?_isSome.mpr ⟨job, h, decide_eq_true rfl⟩
  rcases Option.isSome_iff_exists.mp hsome with ⟨found, hfound⟩
  rcases job?_eq_some hfound with ⟨hmem, hgen⟩
  rw [hfound, job_eq_of_generation_eq h hmem hgen]

theorem armed?_of_mem {events : List (Event α)} {job : Job} (h : job ∈ (after events).jobs)
    (hdispatched : job.dispatched = false) (hcancelled : job.cancelled = false) :
    (after events).armed? job.generation = some job := by
  rw [armed?, job?_of_mem h, Option.filter_some, Job.isArmed, hdispatched, hcancelled]
  rfl

/-- The number of a request is not given out again. -/
theorem issued_made_le (before : List (Event α)) (uri : Uri) (text : Text)
    (later : List (Event α)) :
    (after before).issued + 1 ≤ (after (before ++ .schedule uri text :: later)).issued := by
  have hle := issued_le_append (before ++ [.schedule uri text]) later
  rwa [after_snoc, issued_step_schedule, List.append_assoc, List.singleton_append] at hle

/-- A job that was there before an event, if the number is that of an older request. -/
theorem exists_old_of_mem_jobs {job : Job} (h : job ∈ (m.step e).1.jobs)
    (hle : job.generation ≤ m.issued) : ∃ old ∈ m.jobs, m.Carries e old job := by
  rcases mem_jobs_step h with hold | ⟨uri, text, -, rfl⟩
  · exact hold
  · exact absurd hle (Nat.not_succ_le_self _)

end Numbers

/-! ## At most once -/

section Once

variable {m : Machine} {e : Event α} {g : Nat} {uri : Uri} {text : Text}

/-- A validation is started when a timer fires, and only for the newest request of a
    document. -/
theorem validate_mem_step (h : .validate g uri text ∈ (m.step e).2) :
    e = .fire g ∧ ∃ job, m.armed? g = some job ∧ job.uri = uri ∧ job.text = text ∧
      m.generation? uri = some g := by
  rcases outputs_step m e with ho | ⟨_, -, ho⟩ | ⟨g', job, rfl, hjob, hcur, ho⟩ |
    ⟨_, _, _, -, -, -, ho⟩
  · rw [ho] at h
    exact absurd h List.not_mem_nil
  · simp only [ho, List.mem_singleton, reduceCtorEq] at h
  · rw [ho, List.mem_singleton] at h
    injection h with hg hu ht
    subst hg hu ht
    rw [isCurrent, decide_eq_true_eq, (armed?_eq_some hjob).2.1] at hcur
    exact ⟨rfl, job, hjob, rfl, rfl, hcur⟩
  · simp only [ho, List.mem_singleton, reduceCtorEq] at h

/-- The job whose validation starts is dispatched. -/
theorem dispatched_of_validate {job : Job} (h : .validate g uri text ∈ (m.step e).2)
    (hjob : job ∈ (m.step e).1.jobs) (hgen : job.generation = g) : job.dispatched = true := by
  rcases validate_mem_step h with ⟨rfl, found, hfound, huri, -, hrecord⟩
  have hcur : m.isCurrent found = true := by
    rw [isCurrent, huri, (armed?_eq_some hfound).2.1]
    exact decide_eq_true hrecord
  simp only [step, hfound, if_pos hcur] at hjob
  rcases List.mem_map.mp hjob with ⟨old, -, rfl⟩
  rw [(old.older_dispatchedAt g).generation] at hgen
  rw [Job.dispatchedAt, if_pos hgen]

/-- A request that was validated has no job that still waits. -/
theorem dispatched_of_validated (events : List (Event α))
    (h : .validate g uri text ∈ outputs events) :
    g ≤ (after events).issued ∧
      ∀ job ∈ (after events).jobs, job.generation = g → job.dispatched = true := by
  induction events using List.reverseRecOn with
  | nil => exact absurd h List.not_mem_nil
  | append_singleton events e ih =>
      rw [outputs_snoc] at h
      rw [after_snoc]
      rcases List.mem_append.mp h with h | h
      · rcases ih h with ⟨hg, hjobs⟩
        refine ⟨Nat.le_trans hg (issued_le_step _ e), fun job hjob hgen => ?_⟩
        rcases exists_old_of_mem_jobs hjob (hgen ▸ hg) with ⟨old, hold, hcarries⟩
        have holder := hcarries.older
        exact holder.dispatched (hjobs old hold (holder.generation.symm.trans hgen))
      · rcases validate_mem_step h with ⟨-, found, hfound, -⟩
        rcases armed?_eq_some hfound with ⟨hmem, hgen, -⟩
        refine ⟨?_, fun job hjob => dispatched_of_validate h hjob⟩
        rw [← hgen]
        exact Nat.le_trans (jobs_le_issued events found hmem) (issued_le_step _ e)

theorem mem_validated_iff {outs : List (Output α)} :
    g ∈ outs.filterMap Output.validated? ↔ ∃ uri text, .validate g uri text ∈ outs := by
  rw [List.mem_filterMap]
  constructor
  · rintro ⟨o, ho, hg⟩
    cases o with
    | validate g' uri text =>
        obtain rfl := Option.some.inj hg
        exact ⟨uri, text, ho⟩
    | publish g' uri result => exact nomatch hg
    | clear uri => exact nomatch hg
  · rintro ⟨uri, text, ho⟩
    exact ⟨_, ho, rfl⟩

/-- No request is validated twice. -/
theorem validations_nodup (events : List (Event α)) :
    ((outputs events).filterMap Output.validated?).Nodup := by
  induction events using List.reverseRecOn with
  | nil => exact List.nodup_nil
  | append_singleton events e ih =>
      rw [outputs_snoc, List.filterMap_append, List.nodup_append]
      refine ⟨ih, ?_, ?_⟩
      · rcases outputs_step (after events) e with h | ⟨_, -, h⟩ | ⟨g, _, -, -, -, h⟩ |
          ⟨_, _, _, -, -, -, h⟩
        · rw [h]
          exact List.nodup_nil
        · rw [h]
          exact List.nodup_nil
        · rw [h]
          exact List.nodup_singleton g
        · rw [h]
          exact List.nodup_nil
      · rintro g hold _ hnew rfl
        -- The request would have a job that waits and was dispatched.
        rcases mem_validated_iff.mp hold with ⟨uri, text, hold⟩
        rcases mem_validated_iff.mp hnew with ⟨uri', text', hnew⟩
        rcases validate_mem_step hnew with ⟨-, job, hjob, -⟩
        rcases armed?_eq_some hjob with ⟨hmem, hgen, hdispatched, -⟩
        have hstarted := (dispatched_of_validated events hold).2 job hmem hgen
        exact absurd (hdispatched.symm.trans hstarted) Bool.false_ne_true

end Once

/-! ## The validation of a request -/

section Requests

variable {events before later : List (Event α)} {g : Nat} {uri : Uri} {text : Text}

/-- A validation that was started in a run was started by a timer. -/
theorem exists_fire_of_validate (h : .validate g uri text ∈ outputs events) :
    ∃ first rest job, events = first ++ .fire g :: rest ∧ (after first).armed? g = some job ∧
      job.uri = uri ∧ job.text = text ∧ (after first).generation? uri = some g := by
  rcases mem_outputs_run h with ⟨first, e, ⟨rest, rfl⟩, hout⟩
  rcases validate_mem_step hout with ⟨rfl, job, hjob, huri, htext, hrecord⟩
  exact ⟨first, rest, job, List.append_cons _ _ _ |>.symm, hjob, huri, htext, hrecord⟩

/-- A job that has the number of an older request was there before. -/
theorem exists_older_of_le {first more : List (Event α)} {job : Job}
    (h : job ∈ (after (first ++ more)).jobs) (hle : job.generation ≤ (after first).issued) :
    ∃ old ∈ (after first).jobs, old.Older job := by
  induction more using List.reverseRecOn generalizing job with
  | nil => exact ⟨job, List.append_nil first ▸ h, .refl job⟩
  | append_singleton more e ih =>
      rw [← List.append_assoc, after_snoc] at h
      rcases exists_old_of_mem_jobs h (Nat.le_trans hle (issued_le_append first more)) with
        ⟨next, hnext, hcarries⟩
      rcases ih hnext (hcarries.older.generation ▸ hle) with ⟨old, hold, holder⟩
      exact ⟨old, hold, holder.trans hcarries.older⟩

/-- Without a request, no number is given out. -/
theorem issued_append {first more : List (Event α)}
    (hmore : ∀ uri text, .schedule uri text ∉ more) :
    (after (first ++ more)).issued = (after first).issued := by
  induction more using List.reverseRecOn with
  | nil => rw [List.append_nil]
  | append_singleton more e ih =>
      have hlast : e ∈ more ++ [e] := List.mem_append_right more (List.mem_singleton_self e)
      rw [← List.append_assoc, after_snoc,
        issued_step fun uri text he => hmore uri text (he ▸ hlast)]
      exact ih fun uri text he => hmore uri text (List.mem_append_left _ he)

/-- Without a request, the jobs are those from before. -/
theorem exists_older_of_mem_jobs {first mid : List (Event α)} {job : Job}
    (hmid : ∀ uri text, .schedule uri text ∉ mid) (h : job ∈ (after (first ++ mid)).jobs) :
    ∃ old ∈ (after first).jobs, old.Older job :=
  exists_older_of_le h (issued_append hmid ▸ jobs_le_issued _ job h)

/-- Without a request, only what is armed already can be validated. -/
theorem armed?_of_validate {first more : List (Event α)}
    (hmore : ∀ uri text, .schedule uri text ∉ more)
    (h : .validate g uri text ∈ ((after first).run more).2) :
    ((after first).armed? g).isSome := by
  rcases mem_outputs_run h with ⟨mid, e, hpart, hout⟩
  rcases validate_mem_step hout with ⟨-, job, hjob, -⟩
  rw [← after_append] at hjob
  rcases armed?_eq_some hjob with ⟨hmem, hgen, hdispatched, hcancelled⟩
  have hmid : ∀ uri text, .schedule uri text ∉ mid := fun uri text he =>
    hmore uri text (hpart.subset (List.mem_append_left _ he))
  rcases exists_older_of_mem_jobs hmid hmem with ⟨old, hold, holder⟩
  have harmed := armed?_of_mem hold (holder.dispatched_eq_false hdispatched)
    (holder.cancelled_eq_false hcancelled)
  rw [← hgen, holder.generation, harmed]
  rfl

/-- Every validation is that of a request, with its document and its text. -/
theorem request_of_validated (h : .validate g uri text ∈ outputs events) :
    ∃ before later, events = before ++ .schedule uri text :: later ∧
      g = (after before).issued + 1 := by
  rcases exists_fire_of_validate h with ⟨first, rest, job, rfl, hjob, huri, htext, hrecord⟩
  rcases armed?_eq_some hjob with ⟨hmem, hgen, -⟩
  rcases standing_of_generation? first hrecord with ⟨asked, before, later, hstanding⟩
  have hnumber := hstanding.number
  rw [after_snoc, issued_step_schedule] at hnumber
  have hserved := served before uri asked later job (hstanding.split ▸ hmem)
    (hgen.trans hnumber.symm)
  refine ⟨before, later ++ .fire g :: rest, ?_, hnumber.symm⟩
  rw [hstanding.split, ← htext, hserved.2.1, List.append_assoc, List.cons_append]

/-- A job that was not cancelled and still has the record of its document was not taken
    back. -/
theorem not_withdrawn {job : Job}
    (hrecord : (after (before ++ .schedule uri text :: later)).generation? uri =
      some ((after before).issued + 1))
    (hjob : job ∈ (after (before ++ .schedule uri text :: later)).jobs)
    (hgen : job.generation = (after before).issued + 1) (hkept : job.cancelled = false) :
    ∀ e ∈ later, ¬e.Withdraws uri := by
  induction later using List.reverseRecOn generalizing job with
  | nil => exact fun e he => absurd he List.not_mem_nil
  | append_singleton later last ih =>
      rw [← List.cons_append, ← List.append_assoc, after_snoc] at hrecord hjob
      have hle := issued_made_le before uri text later
      rcases generation?_step_eq_some hrecord with ⟨_, -, hnew⟩ | ⟨hold, hschedule, hclose, -⟩
      · omega
      rcases exists_old_of_mem_jobs hjob (hgen ▸ hle) with ⟨old, hmem, hcarries⟩
      have holder := hcarries.older
      have hfirst := ih hold hmem (holder.generation.symm.trans hgen)
        (holder.cancelled_eq_false hkept)
      intro e he
      rcases List.mem_append.mp he with he | he
      · exact hfirst e he
      obtain rfl := List.mem_singleton.mp he
      rintro (⟨newer, rfl⟩ | rfl | rfl)
      · exact hschedule newer rfl
      · exact hclose rfl
      · -- A shutdown cancels every job that is alive.
        rcases List.mem_map.mp hjob with ⟨_, -, rfl⟩
        exact absurd hkept (by simp [Job.cancel])

/-- A request whose timer has not fired has no job that was dispatched. -/
theorem not_dispatched {job : Job} (hfire : .fire ((after before).issued + 1) ∉ later)
    (hjob : job ∈ (after (before ++ .schedule uri text :: later)).jobs)
    (hgen : job.generation = (after before).issued + 1) : job.dispatched = false := by
  by_contra hdispatched
  have hout := (served before uri text later job hjob hgen).2.2 (Bool.not_eq_false _ ▸ hdispatched)
  rcases mem_outputs_run hout with ⟨mid, e, hpart, hstep⟩
  obtain ⟨rfl, -⟩ := validate_mem_step hstep
  have hmem := hpart.subset (List.mem_append_right mid (List.mem_singleton_self _))
  rcases List.mem_cons.mp hmem with hcall | hmem
  · exact nomatch hcall
  · exact hfire hmem

/-- A shutdown cannot be complete while a request is live. -/
theorem Live.endShutdown (h : Live events uri g) :
    Live (events ++ [.endShutdown]) uri g := by
  have hstep : ((after events).step (.endShutdown : Event α)).1 = after events := by
    rcases h.alive with ⟨job, hjob, -⟩
    have hjobs : ¬(after events).jobs.isEmpty = true :=
      fun hempty => List.ne_nil_of_mem hjob (List.isEmpty_iff.mp hempty)
    simp only [step, if_neg hjobs]
  constructor <;> rw [after_snoc, hstep]
  · exact h.record
  · exact h.alive
  · exact h.kept

/-- A request that is not taken back waits for its timer. -/
theorem live_until_fired (before : List (Event α)) (uri : Uri) (text : Text)
    (hkept : ∀ e ∈ later, ¬e.Withdraws uri) (hfire : .fire ((after before).issued + 1) ∉ later) :
    Live (before ++ .schedule uri text :: later) uri ((after before).issued + 1) := by
  induction later using List.reverseRecOn with
  | nil => exact .made before uri text
  | append_singleton later e ih =>
      have hfirst : .fire ((after before).issued + 1) ∉ later :=
        fun h => hfire (List.mem_append_left _ h)
      have hlive := ih (fun e he => hkept e (List.mem_append_left _ he)) hfirst
      rw [← List.cons_append, ← List.append_assoc]
      by_cases hend : e = .endShutdown
      · exact hend ▸ hlive.endShutdown
      have hlast := hkept e (List.mem_append_right _ (List.mem_singleton_self e))
      have hcalls : NoCalls uri [e] := noCalls_of_not_withdrawn fun e' he' =>
        List.mem_singleton.mp he' ▸ hlast
      rcases hlive.snoc e hcalls (fun he => hlast (Or.inr (Or.inr he))) hend with h | ⟨-, hval⟩
      · exact h
      · -- A validation cannot end that has not started.
        rcases Option.isSome_iff_exists.mp hval with ⟨job, hjob⟩
        rcases validating?_eq_some hjob with ⟨hmem, hgen, hdispatched⟩
        rw [not_dispatched hfirst hmem hgen] at hdispatched
        exact absurd hdispatched Bool.false_ne_true

/-- The timer of a request that was not taken back starts its validation. -/
theorem step_fire (text : Text) (hkept : ∀ e ∈ later, ¬e.Withdraws uri)
    (hfire : .fire ((after before).issued + 1) ∉ later) :
    .validate ((after before).issued + 1) uri text ∈
        ((after (before ++ .schedule uri text :: later)).step
          (.fire ((after before).issued + 1) : Event α)).2 ∧
      ⟨(after before).issued + 1, uri, text, true, false⟩ ∈
        ((after (before ++ .schedule uri text :: later)).step
          (.fire ((after before).issued + 1) : Event α)).1.jobs := by
  have hlive := live_until_fired before uri text hkept hfire
  rcases hlive.alive with ⟨job, hjob, hgen⟩
  have hcancelled := (hlive.kept job hjob hgen).2
  have hdispatched := not_dispatched hfire hjob hgen
  rcases served before uri text later job hjob hgen with ⟨huri, htext, -⟩
  have harmed := armed?_of_mem hjob hdispatched hcancelled
  rw [hgen] at harmed
  have hcur : (after (before ++ .schedule uri text :: later)).isCurrent job = true := by
    rw [isCurrent, huri, hgen]
    exact decide_eq_true hlive.record
  simp only [step, harmed, if_pos hcur, huri, htext, List.mem_singleton, true_and]
  refine List.mem_map.mpr ⟨job, hjob, ?_⟩
  rw [Job.dispatchedAt, if_pos hgen, ← hgen, ← huri, ← htext, ← hcancelled]

/-- A request is validated if and only if its timer fires before it is taken back. -/
theorem validate_iff_firesFirst (before : List (Event α)) (uri : Uri) (text : Text)
    (later : List (Event α)) :
    .validate ((after before).issued + 1) uri text ∈ outputs (before ++ .schedule uri text :: later) ↔
      FiresFirst uri ((after before).issued + 1) later := by
  constructor
  · intro h
    rcases exists_fire_of_validate h with ⟨first, rest, job, hsplit, hjob, -, -, hrecord⟩
    rcases armed?_eq_some hjob with ⟨hmem, hgen, -, hcancelled⟩
    rcases split_of_alive hsplit.symm hmem hgen with ⟨mid, rfl, rfl⟩
    exact ⟨mid, rest, rfl, not_withdrawn hrecord hmem hgen hcancelled⟩
  · intro h
    rcases h.exists_first with ⟨mid, rest, rfl, hfire, hkept⟩
    have hout := (step_fire text hkept hfire).1
    rw [← List.cons_append, ← List.append_assoc, List.append_cons, outputs_append, outputs_snoc]
    exact List.mem_append_left _ (List.mem_append_right _ hout)

/-- What is validated under the number of a request is its document with its text. -/
theorem eq_of_validate {other : Uri} {newer : Text}
    (h : .validate ((after before).issued + 1) other newer ∈
      outputs (before ++ .schedule uri text :: later)) : other = uri ∧ newer = text := by
  rcases exists_fire_of_validate h with ⟨first, rest, job, hsplit, hjob, rfl, rfl, -⟩
  rcases armed?_eq_some hjob with ⟨hmem, hgen, -⟩
  rcases split_of_alive hsplit.symm hmem hgen with ⟨mid, rfl, rfl⟩
  rcases served before uri text mid job hmem hgen with ⟨huri, htext, -⟩
  exact ⟨huri, htext⟩

/-- A request that is taken back before its timer fires is not validated, whatever comes
    later. -/
theorem not_validated_of_withdrawn {mid rest : List (Event α)} {e : Event α}
    (he : e.Withdraws uri) (hfire : .fire ((after before).issued + 1) ∉ mid) :
    .validate ((after before).issued + 1) uri text ∉
      outputs (before ++ .schedule uri text :: (mid ++ e :: rest)) := by
  rw [validate_iff_firesFirst]
  rintro ⟨first, last, hsplit, hkept⟩
  have hne : e ≠ .fire ((after before).issued + 1) := by
    rintro rfl
    rcases he with ⟨_, he⟩ | he | he <;> exact nomatch he
  -- One of the two events comes first, and neither can.
  have hwithdrawn : mid ++ [e] <+: mid ++ e :: rest := ⟨rest, List.append_cons _ _ _ |>.symm⟩
  have hfired : first ++ [.fire ((after before).issued + 1)] <+: mid ++ e :: rest :=
    ⟨last, by rw [hsplit, ← List.append_cons]⟩
  rcases List.prefix_or_prefix_of_prefix hwithdrawn hfired with h | h
  · rcases List.prefix_concat_iff.mp h with heq | hin
    · exact hne (List.append_inj' heq rfl |>.2 |> List.singleton_inj.mp)
    · exact hkept e (hin.subset (by simp)) he
  · rcases List.prefix_concat_iff.mp h with heq | hin
    · exact hne (List.append_inj' heq rfl |>.2 |> List.singleton_inj.mp).symm
    · exact hfire (hin.subset (by simp))

end Requests

/-! ## What is being validated -/

section Started

variable {first rest : List (Event α)} {job : Job}

/-- A request or a close leaves a job as it is whose validation has started. -/
theorem mem_jobs_call {m : Machine} {e : Event α} (he : e.isCall = true) (hjob : job ∈ m.jobs)
    (hdispatched : job.dispatched = true) : job ∈ (m.step e).1.jobs := by
  have hdisarm (uri : Uri) : job ∈ (m.disarm uri).jobs := by
    unfold disarm
    split
    · rename_i g _
      have hsame : job.disarmed g = job :=
        if_neg fun hc => absurd (hc.2.symm.trans hdispatched) Bool.false_ne_true
      exact List.mem_map.mpr ⟨job, hjob, hsame⟩
    · exact hjob
  cases e with
  | schedule uri text => exact List.mem_append_left _ (hdisarm uri)
  | close uri => exact hdisarm uri
  | _ => exact nomatch he

/-- So does every event that is no shutdown and does not end the validation. -/
theorem mem_jobs_step_of_dispatched {e : Event α} (hjob : job ∈ (after first).jobs)
    (hdispatched : job.dispatched = true) (hcancelled : job.cancelled = false)
    (hshutdown : e ≠ .beginShutdown) (hends : ¬(after first).EndsValidation e job.generation) :
    job ∈ ((after first).step e).1.jobs := by
  by_cases hcall : e.isCall = true
  · exact mem_jobs_call hcall hjob hdispatched
  have hother : ¬(after first).Ends e job.generation := by
    intro h
    cases h with
    | complete result hfound =>
        exact hends ⟨Or.inl ⟨result, rfl⟩, Option.isSome_iff_exists.mpr ⟨_, hfound⟩⟩
    | fail hfound => exact hends ⟨Or.inr rfl, Option.isSome_iff_exists.mpr ⟨_, hfound⟩⟩
    | reap hfound =>
        rcases cancelled?_eq_some hfound with ⟨hmem, hgen, hfcancelled⟩
        rw [job_eq_of_generation_eq hjob hmem hgen, hcancelled] at hfcancelled
        exact absurd hfcancelled Bool.false_ne_true
    | expire hfound _ =>
        rcases armed?_eq_some hfound with ⟨hmem, hgen, hfdispatched, -⟩
        rw [job_eq_of_generation_eq hjob hmem hgen, hdispatched] at hfdispatched
        exact absurd hfdispatched.symm Bool.false_ne_true
  -- The job is there in some form, and nothing has set its marks.
  rcases survives_step hjob hother with ⟨next, hnext, holder⟩
  have hle : next.generation ≤ (after first).issued :=
    holder.generation ▸ jobs_le_issued first job hjob
  rcases exists_old_of_mem_jobs hnext hle with ⟨old, hold, hcarries⟩
  have hsame := job_eq_of_generation_eq hjob hold
    (hcarries.older.generation.symm.trans holder.generation)
  rw [hsame] at hcarries
  have hkept : next.cancelled = job.cancelled := by
    rcases hcarries.cancelled with h | h | ⟨uri, ⟨text, h⟩ | h, -⟩
    · exact h
    · exact absurd h hshutdown
    · exact absurd (h ▸ rfl) hcall
    · exact absurd (h ▸ rfl) hcall
  have hnextjob : next = job := by
    rcases next with ⟨_, _, _, _, _⟩
    rcases job with ⟨_, _, _, _, _⟩
    simp only [Job.mk.injEq]
    exact ⟨holder.generation, holder.uri, holder.text,
      (holder.dispatched hdispatched).trans hdispatched.symm, hkept⟩
  exact hnextjob ▸ hnext

/-- What is being validated stays as it is until a shutdown begins or the validation ends. -/
theorem started_or_ended (hjob : job ∈ (after first).jobs) (hdispatched : job.dispatched = true)
    (hcancelled : job.cancelled = false) (hshutdown : .beginShutdown ∉ rest) :
    job ∈ (after (first ++ rest)).jobs ∨
      ∃ mid e, mid ++ [e] <+: rest ∧ (after (first ++ mid)).EndsValidation e job.generation := by
  induction rest using List.reverseRecOn with
  | nil =>
      rw [List.append_nil]
      exact Or.inl hjob
  | append_singleton rest e ih =>
      rcases ih (fun h => hshutdown (List.mem_append_left _ h)) with h | ⟨mid, last, hpart, hends⟩
      · by_cases hends : (after (first ++ rest)).EndsValidation e job.generation
        · exact Or.inr ⟨rest, e, List.prefix_rfl, hends⟩
        · rw [← List.append_assoc, after_snoc]
          refine Or.inl (mem_jobs_step_of_dispatched h hdispatched hcancelled (fun he => ?_) hends)
          exact hshutdown (by simp [he])
      · exact Or.inr ⟨mid, last, hpart.trans (List.prefix_append rest [e]), hends⟩

end Started

/-- What becomes of a request, by what comes after it: whatever is validated under its number is
    its text; this happens if and only if its timer fires before it is taken back; it does not
    happen any more once the request is taken back; and what was started stays until it ends or
    a shutdown begins. -/
structure Debounced (before : List (Event α)) (uri : Uri) (text : Text)
    (later : List (Event α)) : Prop where
  own : ∀ other newer, .validate ((after before).issued + 1) other newer ∈
    outputs (before ++ .schedule uri text :: later) → other = uri ∧ newer = text
  validated_iff : .validate ((after before).issued + 1) uri text ∈
    outputs (before ++ .schedule uri text :: later) ↔
      FiresFirst uri ((after before).issued + 1) later
  withdrawn : ∀ mid e rest, later = mid ++ e :: rest → e.Withdraws uri →
    .fire ((after before).issued + 1) ∉ mid →
    .validate ((after before).issued + 1) uri text ∉ outputs (before ++ .schedule uri text :: later)
  kept : ∀ mid rest, later = mid ++ .fire ((after before).issued + 1) :: rest →
    (∀ e ∈ mid, ¬e.Withdraws uri) → .fire ((after before).issued + 1) ∉ mid →
    .beginShutdown ∉ rest →
    ⟨(after before).issued + 1, uri, text, true, false⟩ ∈
        (after (before ++ .schedule uri text :: later)).jobs ∨
      ∃ part e, part ++ [e] <+: rest ∧
        (after (before ++ .schedule uri text ::
          (mid ++ .fire ((after before).issued + 1) :: part))).EndsValidation e
            ((after before).issued + 1)

theorem debounced (before : List (Event α)) (uri : Uri) (text : Text) (later : List (Event α)) :
    Debounced before uri text later where
  own := fun _ _ h => eq_of_validate h
  validated_iff := validate_iff_firesFirst before uri text later
  withdrawn := by
    rintro mid e rest rfl he hfire
    exact not_validated_of_withdrawn he hfire
  kept := by
    rintro mid rest rfl hkept hfire hshutdown
    have hstep := (step_fire text hkept hfire).2
    rw [← after_snoc] at hstep
    have hsplit (part : List (Event α)) : before ++ .schedule uri text ::
        (mid ++ .fire ((after before).issued + 1) :: part) =
        before ++ .schedule uri text :: mid ++ [.fire ((after before).issued + 1)] ++ part := by
      rw [← List.append_cons, List.append_assoc, List.cons_append]
    rcases started_or_ended hstep rfl rfl hshutdown with h | ⟨part, e, hpart, hends⟩
    · exact Or.inl (hsplit rest ▸ h)
    · exact Or.inr ⟨part, e, hpart, hsplit part ▸ hends⟩

-- The timer of the first request fires too, but a newer request was made before.
example : outputs [.schedule "a" [], .schedule "a" ['x'], .fire 1, .fire 2] =
    ([.validate 2 "a" ['x']] : List (Output Nat)) := by
  rfl

end Machine

end RiddlEditor
