import RiddlEditor.Proofs.Revalidation.Clock
import RiddlEditor.Proofs.Revalidation.Debounce
import RiddlEditor.Proofs.Revalidation.Requests

/-!
# No validation before its time

A request is validated if its timer fires before the request is taken back, and a timer does not
fire before the delay has passed since the request.

The first half is about the machine and holds for every order of its events. The second half is
about its clock. A timer has the number of its request and is due one delay after the request
was made; both stay with it as long as it is there. Two kinds of steps make timers fire. In one
kind those fire that are due, and the clock has come to their deadlines (`fires_runDue`). In the
step that waits for all jobs, every timer fires and the clock moves to the last deadline of a job
that is armed; a timer can start a validation only if its job is one of these
(`fires_waitIdle`).

## Main definitions

* `Timeline.latest`: The latest of a time and some deadlines.
* `Timeline.Steps`: The steps in which jobs run.
* `Timeline.Fires`: What a step does to timers.
* `Timeline.Reached`: A timeline that has come from its start, with the times of the calls and
  of the validations.
* `Timeline.IsDeadline`: When a request is due.
* `Timeline.Timed`: What a timeline keeps.

## Theorems

* `timers_fireTimers`: What fires is gone, and what does not fire goes on.
* `generation_of_validate_fire`: A timer starts the validation of its own request.
* `not_latest_lt`: The latest of some times is not earlier than any of them.
* `Steps.fires`: In every step validations start when their timers are due.
* `Reached.timed`: Every timeline keeps its machine and its deadlines.
* `requests_are_debounced`: Which requests are validated, and not before which time.
-/

namespace RiddlEditor

open Machine

namespace Timeline

variable {α : Type} {validate : Uri → Text → Validation α} {t : Timeline α}

/-! ## Clocks and timers -/

/-- A timeline after its jobs have run, which leaves the clock and the timers to others. -/
structure SameTimers (t u : Timeline α) : Prop where
  now : u.now = t.now
  delay : u.delay = t.delay
  timers : u.timers = t.timers

theorem SameTimers.refl (t : Timeline α) : SameTimers t t :=
  ⟨rfl, rfl, rfl⟩

theorem SameTimers.trans {u v : Timeline α} (h : SameTimers t u) (hnext : SameTimers u v) :
    SameTimers t v :=
  ⟨hnext.now.trans h.now, hnext.delay.trans h.delay, hnext.timers.trans h.timers⟩

theorem sameTimers_apply (t : Timeline α) (e : Event α) : SameTimers t (t.apply e).1 :=
  ⟨rfl, rfl, rfl⟩

theorem sameTimers_proceed (t : Timeline α) (g : Nat) (v : Validation α) :
    SameTimers t (t.proceed g v).1 := by
  rw [proceed]
  split
  · exact sameTimers_apply t _
  · split_ifs
    · exact sameTimers_apply t _
    · exact ⟨rfl, rfl, rfl⟩
    · exact sameTimers_apply t _

theorem sameTimers_fire (validate : Uri → Text → Validation α) (t : Timeline α) (g : Nat) :
    SameTimers t (t.fire validate g).1 := by
  have happly := sameTimers_apply t (.fire g)
  rw [fire]
  simp only
  split
  · exact happly.trans (sameTimers_proceed _ g _)
  · exact happly

theorem sameTimers_sequence {β : Type} {f : Timeline α → β → Timeline α × List (Output α)}
    (hf : ∀ t b, SameTimers t (f t b).1) (t : Timeline α) (bs : List β) :
    SameTimers t (t.sequence f bs).1 := by
  induction bs generalizing t with
  | nil => exact .refl t
  | cons b bs ih => exact (hf t b).trans (ih (f t b).1)

theorem sameTimers_release (t : Timeline α) (gate : String) :
    SameTimers t (t.release gate).1 := by
  have hgoing := sameTimers_sequence fun t (w : Waiter α) =>
    sameTimers_apply t (ending w.generation w.result)
  have hopen : SameTimers t { t with
      openGates := gate :: t.openGates
      waiters := t.waiters.filter fun w => w.gate ≠ gate } := ⟨rfl, rfl, rfl⟩
  exact hopen.trans (hgoing _ _)

theorem sameTimers_settle (t : Timeline α) : SameTimers t t.settle :=
  sameTimers_sequence (fun t (job : Job) => sameTimers_apply t (.reap job.generation)) t _

/-- What fires is gone, and what does not fire goes on. -/
theorem timers_fireTimers (validate : Uri → Text → Validation α) (t : Timeline α)
    (chosen : Timer → Bool) :
    (t.fireTimers validate chosen).1.now = t.now ∧
      (t.fireTimers validate chosen).1.delay = t.delay ∧
      (t.fireTimers validate chosen).1.timers =
        (t.timers.filter fun timer => !chosen timer).map Timer.begin := by
  have hsettle := sameTimers_settle t
  have hfire := sameTimers_sequence fun t (timer : Timer) =>
    sameTimers_fire validate t timer.generation
  have h := hfire
    { t.settle with timers := (t.timers.filter fun timer => !chosen timer).map Timer.begin }
    (inOrder (t.timers.filter chosen))
  exact ⟨h.now.trans hsettle.now, h.delay.trans hsettle.delay, h.timers⟩

/-! ## What starts a validation -/

section Validations

variable {g : Nat} {uri : Uri} {text : Text}

theorem mem_sequence {β : Type} {f : Timeline α → β → Timeline α × List (Output α)}
    {bs : List β} {o : Output α} (h : o ∈ (t.sequence f bs).2) : ∃ u, ∃ b ∈ bs, o ∈ (f u b).2 := by
  induction bs generalizing t with
  | nil => exact absurd h List.not_mem_nil
  | cons b bs ih =>
      rcases List.mem_append.mp h with h | h
      · exact ⟨t, b, List.mem_cons_self, h⟩
      · rcases ih h with ⟨u, b', hb', hout⟩
        exact ⟨u, b', List.mem_cons_of_mem b hb', hout⟩

theorem eq_fire_of_validate {e : Event α} (h : .validate g uri text ∈ (t.apply e).2) :
    e = .fire g :=
  (validate_mem_step h).1

/-- The end of a validation does not start one. -/
theorem not_validate_ending (g' : Nat) (result : Option (List α)) :
    .validate g uri text ∉ (t.apply (ending g' result)).2 := by
  intro h
  have he := eq_fire_of_validate h
  cases result <;> exact nomatch he

/-- A timer starts the validation of its own request. -/
theorem generation_of_validate_fire {g' : Nat}
    (h : .validate g uri text ∈ (t.fire validate g').2) : g = g' := by
  have hproceed (u : Timeline α) (v : Validation α) :
      .validate g uri text ∉ (u.proceed g' v).2 := by
    rw [proceed]
    split
    · exact not_validate_ending g' v.result
    · split_ifs
      · exact not_validate_ending g' v.result
      · exact List.not_mem_nil
      · exact fun hfail => absurd (eq_fire_of_validate hfail) (by simp)
  have hfire : .validate g uri text ∈ (t.apply (.fire g')).2 → g = g' := fun hmem => by
    injection eq_fire_of_validate hmem with hg
    exact hg.symm
  rw [fire] at h
  simp only at h
  split at h
  · rcases List.mem_append.mp h with h | h
    · exact hfire h
    · exact absurd h (hproceed _ _)
  · exact hfire h

theorem exists_timer_of_validate {chosen : Timer → Bool}
    (h : .validate g uri text ∈ (t.fireTimers validate chosen).2) :
    ∃ timer ∈ t.timers, chosen timer = true ∧ timer.generation = g := by
  rcases mem_sequence h with ⟨u, timer, htimer, hout⟩
  rw [inOrder, List.mem_mergeSort, List.mem_filter] at htimer
  exact ⟨timer, htimer.1, htimer.2, (generation_of_validate_fire hout).symm⟩

theorem not_validate_release (t : Timeline α) (gate : String) :
    .validate g uri text ∉ (t.release gate).2 := by
  intro h
  rcases mem_sequence h with ⟨u, w, -, hout⟩
  exact not_validate_ending w.generation w.result hout

end Validations

/-! ## The steps of a timeline -/

/-- The latest of a time and the deadlines of timers. -/
def latest (now : Float) (timers : List Timer) : Float :=
  timers.foldl (fun latest timer => if latest < timer.deadline then timer.deadline else latest) now

/-- The latest of some times is not earlier than any of them. -/
theorem not_latest_lt {now : Float} {timers : List Timer} :
    (∀ x, ¬now < x → ¬latest now timers < x) ∧
      ∀ timer ∈ timers, ¬latest now timers < timer.deadline := by
  induction timers generalizing now with
  | nil => exact ⟨fun x h => h, fun timer h => absurd h List.not_mem_nil⟩
  | cons first timers ih =>
      have hcons : latest now (first :: timers) =
          latest (if now < first.deadline then first.deadline else now) timers := rfl
      rw [hcons]
      -- Whether or not the first deadline is later, the rest starts from nothing earlier.
      refine ⟨fun x h => ih.1 x ?_, fun timer htimer => ?_⟩
      · split_ifs with hlt
        · exact fun hx => h (time_lt_trans hlt hx)
        · exact h
      · rcases List.mem_cons.mp htimer with rfl | htimer
        · refine ih.1 _ ?_
          split_ifs with hlt
          · exact time_lt_irrefl _
          · exact hlt
        · exact ih.2 timer htimer

/-- The steps in which jobs run, and what they put out. -/
inductive Steps (validate : Uri → Text → Validation α) (t : Timeline α) :
    Timeline α × List (Output α) → Prop where
  | advance (seconds : Float) : Steps validate t (t.advance validate seconds)
  | openGate {gate : String} {next : Timeline α × List (Output α)}
      (h : t.openGate? validate gate = some next) : Steps validate t next
  | waitIdle : Steps validate t (t.waitIdle validate)
  | shutdown : Steps validate t (t.shutdown, [])

theorem Steps.runs {next : Timeline α × List (Output α)} (h : Steps validate t next) :
    Runs t next := by
  cases h with
  | advance seconds => exact runs_advance validate t seconds
  | openGate h => exact runs_openGate h
  | waitIdle => exact runs_waitIdle validate t
  | shutdown => exact runs_shutdown t

/-- A timer that is due does not have its deadline in the future. -/
theorem not_lt_of_isDue {timer : Timer} (h : t.isDue timer = true) : ¬t.now < timer.deadline := by
  rw [isDue, Bool.or_eq_true, Bool.and_eq_true] at h
  rcases h with h | ⟨h, -⟩
  · exact not_lt_of_le_time (of_decide_eq_true h)
  · exact not_lt_of_isNaN h t.now

/-- What a step does to timers: those that are left are from before it, and a validation that is
    started has a timer that is not in the future when the step is over. -/
structure Fires (t : Timeline α) (next : Timeline α × List (Output α)) : Prop where
  delay : next.1.delay = t.delay
  timer : ∀ timer ∈ next.1.timers, ∃ old ∈ t.timers, timer.generation = old.generation ∧
    timer.deadline = old.deadline
  validated : ∀ g uri text, .validate g uri text ∈ next.2 →
    ∃ timer ∈ t.timers, timer.generation = g ∧ ¬next.1.now < timer.deadline

theorem Fires.behind {u : Timeline α} {next : Timeline α × List (Output α)} {outs : List (Output α)}
    (hdelay : u.delay = t.delay) (htimers : u.timers = t.timers)
    (hsilent : ∀ g uri text, .validate g uri text ∉ outs) (h : Fires u next) :
    Fires t (next.1, outs ++ next.2) where
  delay := h.delay.trans hdelay
  timer := htimers ▸ h.timer
  validated := fun g uri text hmem => by
    rcases List.mem_append.mp hmem with hmem | hmem
    · exact absurd hmem (hsilent g uri text)
    · exact htimers ▸ h.validated g uri text hmem

theorem timer_fireTimers {chosen : Timer → Bool} :
    ∀ timer ∈ (t.fireTimers validate chosen).1.timers, ∃ old ∈ t.timers,
      timer.generation = old.generation ∧ timer.deadline = old.deadline := by
  intro timer h
  rw [(timers_fireTimers validate t chosen).2.2] at h
  rcases List.mem_map.mp h with ⟨old, hold, rfl⟩
  exact ⟨old, (List.mem_filter.mp hold).1, rfl, rfl⟩

theorem fires_runDue (validate : Uri → Text → Validation α) (t : Timeline α) :
    Fires t (t.runDue validate) where
  delay := (timers_fireTimers validate t t.isDue).2.1
  timer := timer_fireTimers
  validated := fun g uri text h => by
    rcases exists_timer_of_validate h with ⟨timer, htimer, hdue, hgen⟩
    refine ⟨timer, htimer, hgen, ?_⟩
    rw [runDue, (timers_fireTimers validate t t.isDue).1]
    exact not_lt_of_isDue hdue

/-- In the step that waits for all jobs only timers are needed whose jobs are armed before it,
    and these are the ones that start a validation. -/
theorem fires_waitIdle {events : List (Event α)} (validate : Uri → Text → Validation α)
    (hmachine : t.machine = after events) : Fires t (t.waitIdle validate) := by
  let gates := t.gates.mergeSort fun a b => decide (a ≤ b)
  let u := (t.sequence release gates).1
  have hgates : SameTimers t u := sameTimers_sequence sameTimers_release t gates
  have hsilent : ∀ g uri text, .validate g uri text ∉ (t.sequence release gates).2 := by
    intro g uri text h
    rcases mem_sequence h with ⟨v, gate, -, hout⟩
    exact not_validate_release v gate hout
  -- What starts a validation was armed when the gates were open.
  have hneeded : ∀ g uri text, .validate g uri text ∈ (u.fireTimers validate fun _ => true).2 →
      (u.machine.armed? g).isSome := by
    intro g uri text h
    rcases runs_sequence runs_release t gates with ⟨opened, hopened, hrun⟩
    rcases runs_fireTimers validate u fun _ => true with ⟨fired, hfired, hfire⟩
    have hu : u.machine = after (events ++ opened) := by
      rw [after_append, ← hmachine, hrun]
    rw [hu] at hfire ⊢
    have hout := congrArg Prod.snd hfire
    refine armed?_of_validate (fun uri text he => ?_) (hout.symm ▸ h)
    exact absurd (hfired _ he) Bool.noConfusion
  have hfires : Fires u ({ (u.fireTimers validate fun _ => true).1 with
      now := latest u.now (u.timers.filter u.isNeeded) },
      (u.fireTimers validate fun _ => true).2) := by
    refine ⟨(timers_fireTimers validate u _).2.1, timer_fireTimers, fun g uri text h => ?_⟩
    rcases exists_timer_of_validate h with ⟨timer, htimer, -, hgen⟩
    refine ⟨timer, htimer, hgen, not_latest_lt.2 timer (List.mem_filter.mpr ⟨htimer, ?_⟩)⟩
    rw [isNeeded, hgen]
    exact hneeded g uri text h
  exact hfires.behind hgates.delay hgates.timers hsilent

theorem Steps.fires {next : Timeline α × List (Output α)} {events : List (Event α)}
    (h : Steps validate t next) (hmachine : t.machine = after events) : Fires t next := by
  cases h with
  | advance seconds =>
      have hdue := fires_runDue validate { t with now := t.now + seconds }
      exact ⟨hdue.delay, hdue.timer, hdue.validated⟩
  | openGate h =>
      rename_i gate
      rw [openGate?] at h
      split at h
      case isTrue =>
        obtain rfl := Option.some.inj h
        have hrelease := sameTimers_release t gate
        exact (fires_runDue validate _).behind hrelease.delay hrelease.timers
          fun _ _ _ => not_validate_release t gate
      case isFalse => exact absurd h (Option.some_ne_none next).symm
  | waitIdle => exact fires_waitIdle validate hmachine
  | shutdown =>
      exact ⟨(sameTimers_settle (t.apply .beginShutdown).1).delay,
        fun timer h => absurd h List.not_mem_nil, fun g uri text h => absurd h List.not_mem_nil⟩

/-! ## Whole timelines -/

/-- The times at which requests were made, in the order of their numbers. The calls are listed
    with the times that the clock showed. -/
def requestTimes (calls : List (Event α × Float)) : List Float :=
  calls.filterMap fun call => call.1.requested?.map fun _ => call.2

/-- When a request is due: one delay after it was made. -/
def IsDeadline (delay : Float) (calls : List (Event α × Float)) (g : Nat) (deadline : Float) :
    Prop :=
  ∃ k called, g = k + 1 ∧ (requestTimes calls)[k]? = some called ∧ deadline = called + delay

/-- A timeline that has come from its start, with the calls that were made, and the numbers of
    the validations that were started, each with the time that the clock showed. -/
inductive Reached (validate : Uri → Text → Validation α) (delay : Float) (gates : List String) :
    List (Event α × Float) → List (Nat × Float) → Timeline α → Prop where
  | start : Reached validate delay gates [] [] (start delay gates)
  | schedule {calls : List (Event α × Float)} {started : List (Nat × Float)} {t : Timeline α}
      (h : Reached validate delay gates calls started t) (uri : Uri) (text : Text) :
      Reached validate delay gates (calls ++ [(.schedule uri text, t.now)]) started
        (t.schedule uri text).1
  | close {calls : List (Event α × Float)} {started : List (Nat × Float)} {t : Timeline α}
      (h : Reached validate delay gates calls started t) (uri : Uri) :
      Reached validate delay gates (calls ++ [(.close uri, t.now)]) started (t.close uri).1
  | step {calls : List (Event α × Float)} {started : List (Nat × Float)} {t : Timeline α}
      {next : Timeline α × List (Output α)} (h : Reached validate delay gates calls started t)
      (hstep : Steps validate t next) :
      Reached validate delay gates calls
        (started ++ (next.2.filterMap Output.validated?).map (·, next.1.now)) next.1

/-- What a timeline keeps: its machine has gone through the calls and through what the clock has
    made of them, and nothing was validated in front of its deadline. -/
structure Timed (delay : Float) (calls : List (Event α × Float)) (started : List (Nat × Float))
    (t : Timeline α) : Prop where
  machine : ∃ events : List (Event α), t.machine = after events ∧
    events.filter Event.isCall = calls.map Prod.fst ∧
    (outputs events).filterMap Output.validated? = started.map Prod.fst
  delay_eq : t.delay = delay
  timers : ∀ timer ∈ t.timers, IsDeadline delay calls timer.generation timer.deadline
  started : ∀ g time, (g, time) ∈ started →
    ∃ deadline, IsDeadline delay calls g deadline ∧ ¬time < deadline

theorem requestTimes_append (calls more : List (Event α × Float)) :
    requestTimes (calls ++ more) = requestTimes calls ++ requestTimes more :=
  List.filterMap_append

/-- Every request has a time. -/
theorem length_requestTimes (calls : List (Event α × Float)) :
    (requestTimes calls).length = (requests (calls.map Prod.fst)).length := by
  induction calls with
  | nil => rfl
  | cons call calls ih =>
      rcases call with ⟨_ | _ | _ | _ | _ | _ | _ | _, time⟩
      case schedule => exact congrArg Nat.succ ih
      all_goals exact ih

theorem requests_filter_isCall (events : List (Event α)) :
    requests (events.filter Event.isCall) = requests events := by
  rw [requests, List.filterMap_filter]
  refine List.filterMap_congr fun e _ => ?_
  cases e <;> rfl

theorem IsDeadline.append {delay : Float} {calls : List (Event α × Float)} {g : Nat}
    {deadline : Float} (h : IsDeadline delay calls g deadline) (more : List (Event α × Float)) :
    IsDeadline delay (calls ++ more) g deadline := by
  rcases h with ⟨k, called, rfl, hk, rfl⟩
  have hlt : k < (requestTimes calls).length := (List.getElem?_eq_some_iff.mp hk).1
  exact ⟨k, called, rfl, by rw [requestTimes_append, List.getElem?_append_left hlt, hk], rfl⟩

section Timed

variable {delay : Float} {gates : List String} {calls : List (Event α × Float)}
  {started : List (Nat × Float)}

theorem Timed.start (delay : Float) (gates : List String) :
    Timed delay [] [] (start delay gates : Timeline α) where
  machine := ⟨[], rfl, rfl, rfl⟩
  delay_eq := rfl
  timers := fun _ h => absurd h List.not_mem_nil
  started := fun _ _ h => absurd h List.not_mem_nil

/-- What was started keeps its deadline when more calls are made. -/
theorem Timed.started_append (h : Timed delay calls started t) (more : List (Event α × Float)) :
    ∀ g time, (g, time) ∈ started →
      ∃ deadline, IsDeadline delay (calls ++ more) g deadline ∧ ¬time < deadline := by
  intro g time hg
  rcases h.started g time hg with ⟨deadline, hdeadline, hlt⟩
  exact ⟨deadline, hdeadline.append more, hlt⟩

/-- A call that puts out no validation is one more event of the machine. -/
theorem Timed.machine_snoc (h : Timed delay calls started t) (e : Event α)
    (hcall : e.isCall = true)
    (hout : ∀ m : Machine, (m.step e).2.filterMap Output.validated? = []) :
    ∃ events : List (Event α), (t.machine.step e).1 = after events ∧
      events.filter Event.isCall = (calls ++ [(e, t.now)]).map Prod.fst ∧
      (outputs events).filterMap Output.validated? = started.map Prod.fst := by
  rcases h.machine with ⟨events, hmachine, hcalls, hvalidated⟩
  refine ⟨events ++ [e], ?_, ?_, ?_⟩
  · rw [after_snoc, hmachine]
  · rw [List.filter_append, hcalls, List.map_append, List.filter_cons_of_pos hcall]
    rfl
  · rw [outputs_snoc, List.filterMap_append, hvalidated, hout, List.append_nil]

/-- A request is given the next number, and its timer is due after the delay. -/
theorem Timed.schedule (h : Timed delay calls started t) (uri : Uri) (text : Text) :
    Timed delay (calls ++ [(.schedule uri text, t.now)]) started (t.schedule uri text).1 := by
  have hmachine := h.machine_snoc (.schedule uri text) rfl fun _ => rfl
  refine ⟨hmachine, h.delay_eq, fun timer htimer => ?_, h.started_append _⟩
  rcases List.mem_append.mp htimer with htimer | htimer
  · exact (h.timers timer htimer).append _
  · -- The new timer has the number of requests that were made, this one included.
    rcases hmachine with ⟨events, hafter, hcalls, -⟩
    have hnumber : (t.machine.step (.schedule uri text : Event α)).1.issued =
        (requestTimes calls).length + 1 := by
      rw [hafter, issued_eq_length, ← requests_filter_isCall, hcalls, ← length_requestTimes,
        requestTimes_append, List.length_append]
      rfl
    rw [List.mem_singleton.mp htimer]
    refine ⟨(requestTimes calls).length, t.now, hnumber, ?_, by rw [← h.delay_eq]⟩
    rw [requestTimes_append, List.getElem?_append_right (Nat.le_refl _), Nat.sub_self]
    rfl

theorem Timed.close (h : Timed delay calls started t) (uri : Uri) :
    Timed delay (calls ++ [(.close uri, t.now)]) started (t.close uri).1 :=
  ⟨h.machine_snoc (.close uri) rfl fun _ => rfl, h.delay_eq,
    fun timer htimer => (h.timers timer htimer).append _, h.started_append _⟩

/-- As jobs run, timers fire that are due. -/
theorem Timed.step {next : Timeline α × List (Output α)} (h : Timed delay calls started t)
    (hstep : Steps validate t next) :
    Timed delay calls (started ++ (next.2.filterMap Output.validated?).map (·, next.1.now))
      next.1 := by
  rcases h.machine with ⟨events, hmachine, hcalls, hvalidated⟩
  have hfires := hstep.fires hmachine
  rcases hstep.runs with ⟨more, hmore, hrun⟩
  rw [hmachine] at hrun
  refine ⟨⟨events ++ more, ?_, ?_, ?_⟩, hfires.delay.trans h.delay_eq, fun timer htimer => ?_,
    fun g time hg => ?_⟩
  · rw [after_append, hrun]
  · -- Jobs that run make no calls.
    have hnone : more.filter Event.isCall = [] :=
      List.filter_eq_nil_iff.mpr fun e he => Bool.eq_false_iff.mp (hmore e he)
    rw [List.filter_append, hcalls, hnone, List.append_nil]
  · rw [outputs_append, hrun, List.filterMap_append, hvalidated, List.map_append, List.map_map]
    exact congrArg _ (List.map_id _).symm
  · rcases hfires.timer timer htimer with ⟨old, hold, hgen, hdeadline⟩
    rw [hgen, hdeadline]
    exact h.timers old hold
  · rcases List.mem_append.mp hg with hg | hg
    · exact h.started g time hg
    · rcases List.mem_map.mp hg with ⟨number, hnumber, hpair⟩
      obtain ⟨rfl, rfl⟩ := Prod.mk.inj hpair
      rcases mem_validated_iff.mp hnumber with ⟨uri, text, hout⟩
      rcases hfires.validated number uri text hout with ⟨timer, htimer, hgen, hlt⟩
      exact ⟨timer.deadline, hgen ▸ h.timers timer htimer, hlt⟩

/-- Every timeline keeps its machine and its deadlines. -/
theorem Reached.timed (h : Reached validate delay gates calls started t) :
    Timed delay calls started t := by
  induction h with
  | start => exact .start delay gates
  | schedule _ uri text ih => exact ih.schedule uri text
  | close _ uri ih => exact ih.close uri
  | step _ hstep ih => exact ih.step hstep

end Timed

end Timeline

/-- Requests are debounced. In every run, no request is validated twice, every validation is that
    of a request, and what becomes of each request is told by `Debounced`: it is validated if and
    only if its timer fires before it is taken back. Calls leave alone what is being validated.
    Of the requests that follow each other without a timer firing in between, at most the last
    one for a document is validated.

    On a timeline, whose machine goes through the calls of its owner, no validation starts before
    the delay has passed since its request. -/
theorem requests_are_debounced {α : Type} :
    (∀ events : List (Event α),
      ((outputs events).filterMap Output.validated?).Nodup ∧
      (∀ g uri text, .validate g uri text ∈ outputs events →
        ∃ before later, events = before ++ .schedule uri text :: later ∧
          g = (after before).issued + 1) ∧
      (∀ before uri text later, events = before ++ .schedule uri text :: later →
        Debounced before uri text later) ∧
      (∀ e : Event α, e.isCall = true → ∀ job ∈ (after events).jobs, job.dispatched = true →
        job ∈ ((after events).step e).1.jobs) ∧
      ∀ before burst later uri, events = before ++ burst ++ later →
        (∀ first text last, burst = first ++ .schedule uri text :: last →
          .fire ((after (before ++ first)).issued + 1) ∉ last) →
        ∀ first text last, burst = first ++ .schedule uri text :: last →
          .validate ((after (before ++ first)).issued + 1) uri text ∈ outputs events →
          ∀ newer, .schedule uri newer ∉ last) ∧
    ∀ (validate : Uri → Text → Validation α) (delay : Float) (gates : List String)
      (calls : List (Event α × Float)) (started : List (Nat × Float)) (t : Timeline α),
      t.Reached validate delay gates calls started →
        (∃ events : List (Event α), t.machine = after events ∧
          events.filter Event.isCall = calls.map Prod.fst ∧
          (outputs events).filterMap Output.validated? = started.map Prod.fst) ∧
        ∀ g time, (g, time) ∈ started →
          ∃ deadline, Timeline.IsDeadline delay calls g deadline ∧ ¬time < deadline := by
  refine ⟨fun events => ⟨validations_nodup events, fun g uri text h => request_of_validated h,
    ?_, ?_, ?_⟩, fun validate delay gates calls started t h => ⟨h.timed.machine, h.timed.started⟩⟩
  · rintro before uri text later rfl
    exact debounced before uri text later
  · intro e he job hjob hdispatched
    exact mem_jobs_call he hjob hdispatched
  · rintro before burst later uri rfl hfire first text last rfl hout newer hnewer
    -- The newer request takes the older one back before the timer of that one fires.
    rcases List.append_of_mem hnewer with ⟨mid, rest, rfl⟩
    have hquiet : .fire ((after (before ++ first)).issued + 1) ∉ mid :=
      fun h => hfire first text _ rfl (List.mem_append_left _ h)
    have hsplit : before ++ (first ++ .schedule uri text :: (mid ++ .schedule uri newer :: rest)) ++
        later = before ++ first ++ .schedule uri text ::
          (mid ++ .schedule uri newer :: (rest ++ later)) := by
      simp only [List.append_assoc, List.cons_append]
    rw [hsplit] at hout
    exact not_validated_of_withdrawn (Or.inl ⟨newer, rfl⟩) hquiet hout

-- A quarter of a second after the request, half a second has not passed.
example :
    let validate : Uri → Text → Validation Nat := fun _ _ => ⟨none, none⟩
    let t := ((Timeline.start 0.5 []).schedule "a" []).1.advance validate 0.25
    t.2.filterMap Output.validated? = [] ∧
      (t.1.advance validate 0.25).2.filterMap Output.validated? = [1] := by
  decide +kernel

end RiddlEditor
