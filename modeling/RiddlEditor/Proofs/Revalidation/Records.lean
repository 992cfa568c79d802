import RiddlEditor.Proofs.Revalidation.Debounce

/-!
# Records and jobs

A machine keeps two books. The records say which documents are open and which request is the
newest for each of them; the jobs say which requests are still on their way. Each operation
changes the two books on its own, and between them they have to make sense: a timer must not
run for a request that nobody waits for any more.

They do, because no operation touches a record without stopping the timer that goes with it.
What a request or a close leaves armed is armed for another document
(`mem_jobs_of_armed_disarm`), and all other events leave the records alone. So the job of a
running timer is always the newest request for its document (`Synced.step`), which leaves one
running timer for a document at most. The records themselves are what the calls say: a document
has a record if and only if a request for it stands (`generation?_eq_some_iff`).

## Main definitions

* `Machine.Synced`: Timers run for the newest requests only.

## Theorems

* `mem_jobs_of_armed_disarm`: What is armed after a call was armed before it.
* `Synced.step`, `synced_after`: One event, and a whole run.
* `generation?_of_standing`: A request that stands has the record of its document.
* `generation?_eq_some_iff`: Which documents have a record.
* `issued_lt_of_later`: A later request has a greater number.
* `records_match_jobs`: How the records and the jobs of a machine belong together.
-/

namespace RiddlEditor

theorem Job.isArmed_iff {job : Job} :
    job.isArmed = true ↔ job.dispatched = false ∧ job.cancelled = false := by
  rw [Job.isArmed, Bool.and_eq_true, Bool.not_eq_true', Bool.not_eq_true']

/-- What is armed was armed before. -/
theorem Job.Older.isArmed {old job : Job} (h : old.Older job) (hjob : job.isArmed = true) :
    old.isArmed = true := by
  rcases Job.isArmed_iff.mp hjob with ⟨hdispatched, hcancelled⟩
  exact Job.isArmed_iff.mpr
    ⟨h.dispatched_eq_false hdispatched, h.cancelled_eq_false hcancelled⟩

/-- A job that is armed after it may have been disarmed was not touched. -/
theorem Job.eq_of_armed_disarmed {g : Nat} {job : Job} (h : (job.disarmed g).isArmed = true) :
    job.disarmed g = job ∧ job.generation ≠ g := by
  by_cases hcancel : job.generation = g ∧ job.dispatched = false
  · -- It was cancelled.
    rw [Job.disarmed, if_pos hcancel] at h
    exact absurd (Job.isArmed_iff.mp h).2 (by simp only [Job.cancel, Bool.true_eq_false,
      not_false_eq_true])
  · rw [Job.disarmed, if_neg hcancel] at h ⊢
    exact ⟨rfl, fun hgen => hcancel ⟨hgen, (Job.isArmed_iff.mp h).1⟩⟩

namespace Machine

variable {α : Type}

section Step

variable {m : Machine} {job : Job}

theorem isCurrent_iff : m.isCurrent job = true ↔ m.generation? job.uri = some job.generation :=
  decide_eq_true_iff

/-- What is armed after the timer of a document was stopped was armed before, and it was not
    the timer of that document's record. -/
theorem mem_jobs_of_armed_disarm {uri : Uri} (h : job ∈ (m.disarm uri).jobs)
    (harmed : job.isArmed = true) : job ∈ m.jobs ∧ m.generation? uri ≠ some job.generation := by
  unfold disarm at h
  split at h
  case h_1 g hrecord =>
    rcases List.mem_map.mp h with ⟨old, hold, rfl⟩
    rcases Job.eq_of_armed_disarmed harmed with ⟨hsame, hne⟩
    rw [hsame, hrecord]
    exact ⟨hold, fun hgen => hne (Option.some.inj hgen).symm⟩
  case h_2 hrecord =>
    rw [hrecord]
    exact ⟨h, (Option.some_ne_none job.generation).symm⟩

/-- Timers run for the newest requests only: the job of each of them has the record of its
    document. -/
def Synced (m : Machine) : Prop :=
  ∀ job ∈ m.jobs, job.isArmed = true → m.isCurrent job = true

theorem Synced.initial : Synced Machine.initial :=
  fun _ hjob => absurd hjob List.not_mem_nil

/-- What stays armed after a call for a document is armed for another one. -/
theorem Synced.uri_ne_of_armed_disarm (h : m.Synced) {uri : Uri} (hjob : job ∈ (m.disarm uri).jobs)
    (harmed : job.isArmed = true) :
    m.generation? job.uri = some job.generation ∧ job.uri ≠ uri := by
  rcases mem_jobs_of_armed_disarm hjob harmed with ⟨hmem, hrecord⟩
  have hcur := isCurrent_iff.mp (h job hmem harmed)
  exact ⟨hcur, fun huri => hrecord (huri ▸ hcur)⟩

/-- Every event keeps timers and records together. -/
theorem Synced.step (h : m.Synced) (e : Event α) : (m.step e).1.Synced := by
  intro job hjob harmed
  rw [isCurrent_iff, generation?_step]
  -- An event that is no call leaves records alone, and it does not arm anything.
  have hkept (hcall : ∀ uri text, e ≠ .schedule uri text) :
      m.generation? job.uri = some job.generation := by
    rcases mem_jobs_step hjob with ⟨old, hold, hcarries⟩ | ⟨uri, text, he, -⟩
    · have holder := hcarries.older
      rw [holder.uri, holder.generation]
      exact isCurrent_iff.mp (h old hold (holder.isArmed harmed))
    · exact absurd he (hcall uri text)
  cases e with
  | schedule uri text =>
      rcases List.mem_append.mp hjob with hjob | hjob
      · rcases h.uri_ne_of_armed_disarm hjob harmed with ⟨hcur, hne⟩
        exact (if_neg hne).trans hcur
      · rw [List.mem_singleton.mp hjob, issued_disarm]
        exact if_pos rfl
  | close uri =>
      rcases h.uri_ne_of_armed_disarm hjob harmed with ⟨hcur, hne⟩
      exact (if_neg hne).trans hcur
  | endShutdown =>
      -- The records are dropped only if there is no job.
      have hjobs : m.jobs ≠ [] := by
        simp only [Machine.step] at hjob
        split at hjob <;> exact List.ne_nil_of_mem hjob
      exact (if_neg hjobs).trans (hkept (by simp))
  | fire g => exact hkept (by simp)
  | complete g result => exact hkept (by simp)
  | fail g => exact hkept (by simp)
  | reap g => exact hkept (by simp)
  | beginShutdown => exact hkept (by simp)

end Step

theorem synced_after (events : List (Event α)) : (after events).Synced := by
  induction events using List.reverseRecOn with
  | nil => exact .initial
  | append_singleton events e ih =>
      rw [after_snoc]
      exact ih.step e

/-! ## What the calls say -/

section Calls

variable {events : List (Event α)} {uri : Uri} {g : Nat}

/-- A request that stands has the record of its document. -/
theorem generation?_of_standing {text : Text} {before later : List (Event α)}
    (h : Standing events uri text g before later) : (after events).generation? uri = some g := by
  obtain ⟨rfl, rfl, hschedule, hclose, hshutdown⟩ := h
  induction later using List.reverseRecOn with
  | nil =>
      rw [after_snoc, issued_step_schedule, generation?_step]
      exact if_pos rfl
  | append_singleton later e ih =>
      have hrecord := ih (fun newer hmem => hschedule newer (List.mem_append_left _ hmem))
        (fun hmem => hclose (List.mem_append_left _ hmem))
        fun mid hmid => hshutdown mid (hmid.trans (List.prefix_append later [e]))
      have hlast : e ∈ later ++ [e] := List.mem_append_right later (List.mem_singleton_self e)
      rw [← List.cons_append, ← List.append_assoc, after_snoc]
      by_cases hend : e = .endShutdown
      · subst hend
        rw [generation?_step]
        exact (if_neg (hshutdown later List.prefix_rfl)).trans hrecord
      · rw [generation?_step_eq (fun newer he => hschedule newer (he ▸ hlast))
          (fun he => hclose (he ▸ hlast)) hend]
        exact hrecord

/-- A document has a record if and only if a request for it stands, and the record is the
    number of that request. -/
theorem generation?_eq_some_iff :
    (after events).generation? uri = some g ↔
      ∃ text before later, Standing events uri text g before later := by
  constructor
  · exact standing_of_generation? events
  · rintro ⟨text, before, later, h⟩
    exact generation?_of_standing h

/-- A later request has a greater number, whatever document it is for. -/
theorem issued_lt_of_later (before mid : List (Event α)) (uri : Uri) (text : Text) (uri' : Uri)
    (text' : Text) :
    (after (before ++ [.schedule uri text])).issued <
      (after (before ++ .schedule uri text :: mid ++ [.schedule uri' text'])).issued := by
  have hle := issued_made_le before uri text mid
  rw [after_snoc, after_snoc, issued_step_schedule, issued_step_schedule]
  exact Nat.lt_succ_of_le hle

end Calls

/-- One timer at most runs for a document. -/
theorem length_armed_le_one (events : List (Event α)) (uri : Uri) :
    ((after events).jobs.filter fun job => job.uri = uri ∧ job.isArmed = true).length ≤ 1 := by
  have hdistinct : ((after events).jobs.filter fun job =>
      job.uri = uri ∧ job.isArmed = true).Pairwise fun a b => a.generation ≠ b.generation :=
    (List.pairwise_map.mp (generations_nodup events)).filter _
  have hrecord : ∀ job ∈ (after events).jobs.filter fun job =>
      job.uri = uri ∧ job.isArmed = true, (after events).generation? uri = some job.generation := by
    intro job hjob
    rcases List.mem_filter.mp hjob with ⟨hmem, hprop⟩
    rcases of_decide_eq_true hprop with ⟨rfl, harmed⟩
    exact isCurrent_iff.mp (synced_after events job hmem harmed)
  -- Two of them would have the record of the document, and so one number.
  generalize (after events).jobs.filter _ = armed at hdistinct hrecord ⊢
  rcases armed with _ | ⟨job, _ | ⟨other, more⟩⟩
  · exact Nat.zero_le 1
  · exact Nat.le_refl 1
  · have hne := List.rel_of_pairwise_cons hdistinct List.mem_cons_self
    have hjob := hrecord job List.mem_cons_self
    have hother := hrecord other (List.mem_cons_of_mem job List.mem_cons_self)
    exact absurd (Option.some.inj (hjob.symm.trans hother)) hne

/-- The records and the jobs of a machine belong together, whatever its run was. One timer at
    most runs for a document, and it is that of the document's record; every other job that is
    alive for the document is being validated or was told to end. A document has a record if and
    only if the last call for it was a request and no shutdown was completed since, and the
    record is the number that this request was given. The numbers of requests increase in the
    order in which they are made, over all documents. -/
theorem records_match_jobs (events : List (Event α)) :
    (∀ uri,
      ((after events).jobs.filter fun job => job.uri = uri ∧ job.isArmed = true).length ≤ 1 ∧
      (∀ job ∈ (after events).jobs, job.uri = uri → job.isArmed = true →
        (after events).generation? uri = some job.generation ∧
        (after events).job? job.generation = some job) ∧
      (∀ job ∈ (after events).jobs, job.uri = uri →
        (after events).generation? uri ≠ some job.generation →
        job.dispatched = true ∨ job.cancelled = true) ∧
      ∀ g, (after events).generation? uri = some g ↔
        ∃ text before later, Standing events uri text g before later) ∧
    ∀ before uri text mid uri' text' later,
      events = before ++ .schedule uri text :: mid ++ .schedule uri' text' :: later →
      (after (before ++ [.schedule uri text])).issued <
        (after (before ++ .schedule uri text :: mid ++ [.schedule uri' text'])).issued := by
  refine ⟨fun uri => ⟨length_armed_le_one events uri, ?_, ?_, fun g => generation?_eq_some_iff⟩, ?_⟩
  · rintro job hjob rfl harmed
    exact ⟨isCurrent_iff.mp (synced_after events job hjob harmed), job?_of_mem hjob⟩
  · rintro job hjob rfl hrecord
    -- Otherwise its timer would run, and it would have the record.
    by_contra hidle
    rw [not_or, Bool.not_eq_true, Bool.not_eq_true] at hidle
    exact hrecord (isCurrent_iff.mp (synced_after events job hjob (Job.isArmed_iff.mpr hidle)))
  · rintro before uri text mid uri' text' - -
    exact issued_lt_of_later before mid uri text uri' text'

-- A document that is opened again while its first text is being validated has two jobs.
example : (after ([.schedule "a" [], .fire 1, .close "a", .schedule "a" ['x']] :
    List (Event Nat))).jobs = [⟨1, "a", [], true, false⟩, ⟨2, "a", ['x'], false, false⟩] := by
  rfl

end Machine

end RiddlEditor
