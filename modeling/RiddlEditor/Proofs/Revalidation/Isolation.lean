import Mathlib.Data.List.Basic
import Mathlib.Data.List.Find
import RiddlEditor.Proofs.Revalidation.Quiescence
import RiddlEditor.Proofs.Revalidation.Requests

/-!
# Documents do not interfere

A run over several documents is for each of them what it would be if the others did not
exist. All documents share the list of jobs and the counter of requests, so the run of one
document alone gives out other numbers; nothing else tells the two runs apart.

The run of one document is what is left when all events of other documents are deleted:
their requests and closes, and the timers and validations that come of these. Its numbers
are the ranks of the numbers of the whole run. The proof runs both machines side by side.
`Mirrors` says what they have in common: the smaller machine has the jobs of its document,
renumbered and in the same order, and the record of its document. An event of the document
keeps that up if both machines take it (`Mirrors.step_of_concerns`), any other event if
only the larger one does (`Mirrors.step_of_not_concerns`).

A shutdown is for all documents and stays in the run. It is complete when no job is left,
which is the only way in which one document could wait for another.

## Main definitions

* `Job.renumber`, `Event.renumber`, `Output.renumber`: The same with another number.
* `Machine.concerns`: Whether an event belongs to a document.
* `Machine.eventsFor`: The events of a run that belong to a document.
* `Machine.alone`: The run of a document without the others.
* `Machine.Mirrors`: What the machines of the two runs have in common.
* `Machine.Possible`: Whether an event does something in a machine.
* `Machine.LooksSame`: What a document shows of two runs is the same.

## Theorems

* `Mirrors.step_of_concerns`, `Mirrors.step_of_not_concerns`: One event.
* `Mirrors.possible`, `Mirrors.agrees`: What may happen in both machines.
* `mirrors_alone`: The machines of the two runs after any part of them.
* `looksSame_alone`: What the document shows after any part of the two runs.
* `documents_do_not_interfere`: A document cannot tell whether it is alone.
-/

namespace RiddlEditor

/-- A job with another number. -/
def Job.renumber (ρ : Nat → Nat) (job : Job) : Job :=
  { job with generation := ρ job.generation }

@[simp] theorem Job.generation_renumber (ρ : Nat → Nat) (job : Job) :
    (job.renumber ρ).generation = ρ job.generation :=
  rfl

@[simp] theorem Job.uri_renumber (ρ : Nat → Nat) (job : Job) : (job.renumber ρ).uri = job.uri :=
  rfl

theorem Job.disarmed_renumber {ρ : Nat → Nat} {g : Nat} {job : Job}
    (h : ρ job.generation = ρ g ↔ job.generation = g) :
    (job.renumber ρ).disarmed (ρ g) = (job.disarmed g).renumber ρ := by
  have hcond : (job.renumber ρ).generation = ρ g ∧ (job.renumber ρ).dispatched = false ↔
      job.generation = g ∧ job.dispatched = false := and_congr_left' h
  unfold Job.disarmed
  by_cases hcancel : job.generation = g ∧ job.dispatched = false
  · rw [if_pos hcancel, if_pos (hcond.mpr hcancel)]
    rfl
  · rw [if_neg hcancel, if_neg (hcond.not.mpr hcancel)]

theorem Job.dispatchedAt_renumber {ρ : Nat → Nat} {g : Nat} {job : Job}
    (h : ρ job.generation = ρ g ↔ job.generation = g) :
    (job.renumber ρ).dispatchedAt (ρ g) = (job.dispatchedAt g).renumber ρ := by
  have hcond : (job.renumber ρ).generation = ρ g ↔ job.generation = g := h
  unfold Job.dispatchedAt
  by_cases hgen : job.generation = g
  · rw [if_pos hgen, if_pos (hcond.mpr hgen)]
    rfl
  · rw [if_neg hgen, if_neg (hcond.not.mpr hgen)]

/-- An event for a job with another number. -/
def Event.renumber {α : Type} (ρ : Nat → Nat) : Event α → Event α
  | .schedule uri text => .schedule uri text
  | .close uri => .close uri
  | .fire g => .fire (ρ g)
  | .complete g result => .complete (ρ g) result
  | .fail g => .fail (ρ g)
  | .reap g => .reap (ρ g)
  | .beginShutdown => .beginShutdown
  | .endShutdown => .endShutdown

/-- An output for a job with another number. -/
def Output.renumber {α : Type} (ρ : Nat → Nat) : Output α → Output α
  | .validate g uri text => .validate (ρ g) uri text
  | .publish g uri result => .publish (ρ g) uri result
  | .clear uri => .clear uri

/-- The document of an output. -/
def Output.uri {α : Type} : Output α → Uri
  | .validate _ uri _ => uri
  | .publish _ uri _ => uri
  | .clear uri => uri

/-- The text of a document whose validation starts. -/
def Output.validatedFor? {α : Type} (uri : Uri) : Output α → Option Text
  | .validate _ other text => if other = uri then some text else none
  | _ => none

namespace Machine

variable {α : Type}

/-- Whether the job with a number is one of a document. -/
def hasJobFor (m : Machine) (uri : Uri) (g : Nat) : Bool :=
  (m.job? g).any fun job => job.uri = uri

/-- Whether an event belongs to a document. A shutdown belongs to all of them, as soon as
    it is complete. -/
def concerns (m : Machine) (uri : Uri) : Event α → Bool
  | .schedule other _ => other = uri
  | .close other => other = uri
  | .fire g => m.hasJobFor uri g
  | .complete g _ => m.hasJobFor uri g
  | .fail g => m.hasJobFor uri g
  | .reap g => m.hasJobFor uri g
  | .beginShutdown => true
  | .endShutdown => m.jobs.isEmpty

/-- The events of a run that belong to a document. -/
def eventsFor (m : Machine) (uri : Uri) : List (Event α) → List (Event α)
  | [] => []
  | e :: rest =>
    if m.concerns uri e then e :: (m.step e).1.eventsFor uri rest
    else (m.step e).1.eventsFor uri rest

/-- A run of a document without the others, whose numbers are those of the whole run
    counted anew. -/
def alone (uri : Uri) (ρ : Nat → Nat) (events : List (Event α)) : List (Event α) :=
  (initial.eventsFor uri events).map (Event.renumber ρ)

theorem eventsFor_append (m : Machine) (uri : Uri) (first rest : List (Event α)) :
    m.eventsFor uri (first ++ rest) =
      m.eventsFor uri first ++ (m.run first).1.eventsFor uri rest := by
  induction first generalizing m with
  | nil => rfl
  | cons e first ih =>
      simp only [List.cons_append, eventsFor, ih, run]
      split <;> rfl

theorem alone_snoc_of_concerns {uri : Uri} {ρ : Nat → Nat} {first : List (Event α)} {e : Event α}
    (h : (after first).concerns uri e = true) :
    alone uri ρ (first ++ [e]) = alone uri ρ first ++ [e.renumber ρ] := by
  have hlast : (after first).eventsFor uri [e] = [e] := if_pos h
  rw [after] at hlast
  rw [alone, eventsFor_append, hlast, List.map_append]
  rfl

theorem alone_snoc_of_not_concerns {uri : Uri} {ρ : Nat → Nat} {first : List (Event α)}
    {e : Event α} (h : (after first).concerns uri e = false) :
    alone uri ρ (first ++ [e]) = alone uri ρ first := by
  have hlast : (after first).eventsFor uri [e] = [] := if_neg (Bool.eq_false_iff.mp h)
  rw [after] at hlast
  rw [alone, eventsFor_append, hlast, List.append_nil]
  rfl

/-! ## Two machines side by side -/

/-- Every number that a machine knows belongs to the document it is known for. -/
structure Numbered (asked : List Uri) (m : Machine) : Prop where
  job : ∀ job ∈ m.jobs, IsRequest asked job.uri job.generation
  record : ∀ uri g, m.generation? uri = some g → IsRequest asked uri g

/-- A machine that has, of another one, the jobs and the record of one document. -/
structure Mirrors (uri : Uri) (asked : List Uri) (m single : Machine) : Prop where
  issued : single.issued = rank uri asked m.issued
  record : single.generation? uri = (m.generation? uri).map (rank uri asked)
  jobs : single.jobs =
    (m.jobs.filter fun job => job.uri = uri).map (Job.renumber (rank uri asked))

theorem Mirrors.initial (uri : Uri) (asked : List Uri) :
    Mirrors uri asked Machine.initial Machine.initial :=
  ⟨rfl, rfl, rfl⟩

section Step

variable {uri : Uri} {asked : List Uri} {m single : Machine}

theorem hasJobFor_iff {g : Nat} :
    m.hasJobFor uri g = true ↔ ∃ job, m.job? g = some job ∧ job.uri = uri := by
  rw [hasJobFor, Option.any_eq_true]
  simp only [decide_eq_true_eq]

theorem Numbered.uri_eq (hn : Numbered asked m) {job : Job} {g : Nat} (h : IsRequest asked uri g)
    (hjob : job ∈ m.jobs) (hg : job.generation = g) : job.uri = uri := by
  have hown := hn.job job hjob
  rw [hg] at hown
  exact hown.uri_eq h

theorem Numbered.rank_inj (hn : Numbered asked m) {job : Job} {g : Nat} (h : IsRequest asked uri g)
    (hjob : job ∈ m.jobs) (huri : job.uri = uri) :
    rank uri asked job.generation = rank uri asked g ↔ job.generation = g :=
  (huri ▸ hn.job job hjob).rank_inj h

/-- Where the larger machine changes its jobs one by one, the smaller one may change those
    that it has in the same way. -/
theorem Mirrors.map (h : Mirrors uri asked m single) {f f' : Job → Job}
    (huri : ∀ job, (f job).uri = job.uri)
    (hf : ∀ job ∈ m.jobs, job.uri = uri →
      f' (job.renumber (rank uri asked)) = (f job).renumber (rank uri asked)) :
    Mirrors uri asked { m with jobs := m.jobs.map f }
      { single with jobs := single.jobs.map f' } := by
  refine ⟨h.issued, h.record, ?_⟩
  have hp : (fun job : Job => decide (job.uri = uri)) ∘ f = fun job => decide (job.uri = uri) := by
    funext job
    simp only [Function.comp_apply, huri]
  simp only [h.jobs, List.filter_map, List.map_map, hp]
  refine List.map_congr_left fun job hjob => ?_
  rw [List.mem_filter, decide_eq_true_eq] at hjob
  exact hf job hjob.1 hjob.2

/-- Where the larger machine drops some of its jobs, the smaller one may drop those of them
    that it has. -/
theorem Mirrors.filter (h : Mirrors uri asked m single) {p p' : Job → Bool}
    (hp : ∀ job ∈ m.jobs, job.uri = uri → p' (job.renumber (rank uri asked)) = p job) :
    Mirrors uri asked { m with jobs := m.jobs.filter p }
      { single with jobs := single.jobs.filter p' } := by
  refine ⟨h.issued, h.record, ?_⟩
  simp only [h.jobs, List.filter_map, List.filter_filter]
  refine congrArg _ (List.filter_congr fun job hjob => ?_)
  by_cases huri : job.uri = uri
  · simp only [Function.comp_apply, hp job hjob huri, Bool.and_comm]
  · simp only [huri, decide_false, Bool.and_false, Bool.false_and]

/-- The smaller machine need not change where the larger one changes jobs of other
    documents only. -/
theorem Mirrors.map_other (h : Mirrors uri asked m single) {f : Job → Job}
    (huri : ∀ job, (f job).uri = job.uri) (hf : ∀ job ∈ m.jobs, job.uri = uri → f job = job) :
    Mirrors uri asked { m with jobs := m.jobs.map f } single := by
  have hmap : Mirrors uri asked { m with jobs := m.jobs.map f }
      { single with jobs := single.jobs.map id } :=
    h.map huri fun job hjob hj => by rw [hf job hjob hj, id]
  rwa [List.map_id] at hmap

theorem Mirrors.filter_other (h : Mirrors uri asked m single) {p : Job → Bool}
    (hp : ∀ job ∈ m.jobs, job.uri = uri → p job = true) :
    Mirrors uri asked { m with jobs := m.jobs.filter p } single := by
  have hfilter : Mirrors uri asked { m with jobs := m.jobs.filter p }
      { single with jobs := single.jobs.filter fun _ => true } :=
    h.filter fun job hjob hj => (hp job hjob hj).symm
  rwa [List.filter_eq_self.mpr fun _ _ => rfl] at hfilter

/-- The smaller machine finds the jobs of its document. -/
theorem Mirrors.job? (h : Mirrors uri asked m single) (hn : Numbered asked m) {g : Nat}
    (hg : IsRequest asked uri g) :
    single.job? (rank uri asked g) = (m.job? g).map (Job.renumber (rank uri asked)) := by
  rw [Machine.job?, h.jobs, List.find?_map, List.find?_filter, Machine.job?]
  refine congrArg _ (List.find?_congr fun job hjob => ?_)
  rw [Function.comp_apply, Job.generation_renumber, decide_eq_decide, decide_eq_true_eq,
    decide_eq_true_eq]
  constructor
  · rintro ⟨huri, hrank⟩
    exact (hn.rank_inj hg hjob huri).mp hrank
  · intro hgen
    exact ⟨hn.uri_eq hg hjob hgen, by rw [hgen]⟩

theorem Mirrors.armed? (h : Mirrors uri asked m single) (hn : Numbered asked m) {g : Nat}
    (hg : IsRequest asked uri g) :
    single.armed? (rank uri asked g) = (m.armed? g).map (Job.renumber (rank uri asked)) := by
  rw [Machine.armed?, h.job? hn hg, Option.filter_map]
  rfl

theorem Mirrors.validating? (h : Mirrors uri asked m single) (hn : Numbered asked m) {g : Nat}
    (hg : IsRequest asked uri g) :
    single.validating? (rank uri asked g) =
      (m.validating? g).map (Job.renumber (rank uri asked)) := by
  rw [Machine.validating?, h.job? hn hg, Option.filter_map]
  rfl

theorem Mirrors.cancelled? (h : Mirrors uri asked m single) (hn : Numbered asked m) {g : Nat}
    (hg : IsRequest asked uri g) :
    single.cancelled? (rank uri asked g) =
      (m.cancelled? g).map (Job.renumber (rank uri asked)) := by
  rw [Machine.cancelled?, h.job? hn hg, Option.filter_map]
  rfl

/-- A job is the newest request of its document in both machines or in neither. -/
theorem Mirrors.isCurrent (h : Mirrors uri asked m single) (hn : Numbered asked m) {job : Job}
    (hjob : job ∈ m.jobs) (huri : job.uri = uri) :
    single.isCurrent (job.renumber (rank uri asked)) = m.isCurrent job := by
  have hrecord : single.generation? (job.renumber (rank uri asked)).uri =
      (m.generation? job.uri).map (rank uri asked) := by
    rw [Job.renumber, huri, h.record]
  rw [Machine.isCurrent, Machine.isCurrent, hrecord]
  rcases hg : m.generation? job.uri with _ | g
  · rfl
  · have hrank := hn.rank_inj (huri ▸ hn.record _ g hg) hjob huri
    simp only [Option.map_some, Option.some.injEq, Job.renumber]
    exact decide_eq_decide.mpr (eq_comm.trans (hrank.trans eq_comm))

theorem Mirrors.remove (h : Mirrors uri asked m single) (hn : Numbered asked m) {g : Nat}
    (hg : IsRequest asked uri g) :
    Mirrors uri asked (m.remove g) (single.remove (rank uri asked g)) :=
  h.filter fun _ hjob huri => decide_eq_decide.mpr (hn.rank_inj hg hjob huri).not

theorem Mirrors.remove_other (h : Mirrors uri asked m single) {g : Nat}
    (hg : ∀ job ∈ m.jobs, job.generation = g → job.uri ≠ uri) :
    Mirrors uri asked (m.remove g) single :=
  h.filter_other fun job hjob huri => decide_eq_true fun hgen => hg job hjob hgen huri

theorem Mirrors.dispatch (h : Mirrors uri asked m single) (hn : Numbered asked m) {g : Nat}
    (hg : IsRequest asked uri g) :
    Mirrors uri asked (m.dispatch g) (single.dispatch (rank uri asked g)) := by
  refine h.map (fun job => (job.older_dispatchedAt g).uri) fun job hjob huri => ?_
  exact Job.dispatchedAt_renumber (hn.rank_inj hg hjob huri)

theorem Mirrors.dispatch_other (h : Mirrors uri asked m single) {g : Nat}
    (hg : ∀ job ∈ m.jobs, job.generation = g → job.uri ≠ uri) :
    Mirrors uri asked (m.dispatch g) single := by
  refine h.map_other (fun job => (job.older_dispatchedAt g).uri) fun job hjob huri => ?_
  exact if_neg fun hgen => hg job hjob hgen huri

/-- A call for a document stops the same timer in both machines. -/
theorem Mirrors.disarm (h : Mirrors uri asked m single) (hn : Numbered asked m) :
    Mirrors uri asked (m.disarm uri) (single.disarm uri) := by
  rw [Machine.disarm, Machine.disarm, h.record]
  rcases hrecord : m.generation? uri with _ | g
  · exact h
  · refine h.map (fun job => (job.older_disarmed g).uri) fun job hjob huri => ?_
    exact Job.disarmed_renumber (hn.rank_inj (hn.record uri g hrecord) hjob huri)

/-- A call for another document does not reach the jobs of this one. -/
theorem Mirrors.disarm_other (h : Mirrors uri asked m single) (hn : Numbered asked m)
    {other : Uri} (hne : other ≠ uri) : Mirrors uri asked (m.disarm other) single := by
  unfold Machine.disarm
  split
  · rename_i g hrecord
    refine h.map_other (fun job => (job.older_disarmed g).uri) fun job hjob huri => ?_
    refine if_neg fun hcancel => hne ?_
    rw [← huri, hn.uri_eq (hn.record other g hrecord) hjob hcancel.1]
  · exact h

theorem Mirrors.schedule (h : Mirrors uri asked m single) (hn : Numbered asked m) (text : Text)
    (hasked : asked[m.issued]? = some uri) :
    Mirrors uri asked (m.schedule uri text) (single.schedule uri text) := by
  have hdisarm := h.disarm hn
  have hnumber : (single.disarm uri).issued + 1 =
      rank uri asked ((m.disarm uri).issued + 1) := by
    rw [hdisarm.issued, issued_disarm, rank_succ_self hasked]
  refine ⟨hnumber, ?_, ?_⟩
  · simp only [Machine.schedule, generation?, UriMap.get?_set, if_true, Option.map_some, hnumber]
  · simp only [Machine.schedule, hdisarm.jobs, List.filter_append, List.map_append, hnumber,
      List.filter_cons, List.filter_nil, decide_true, if_true]
    rfl

theorem Mirrors.schedule_other (h : Mirrors uri asked m single) (hn : Numbered asked m)
    {other : Uri} (text : Text) (hasked : asked[m.issued]? = some other) (hne : other ≠ uri) :
    Mirrors uri asked (m.schedule other text) single := by
  have hdisarm := h.disarm_other hn hne
  refine ⟨?_, ?_, ?_⟩
  · simp only [Machine.schedule, issued_disarm, rank_succ_of_ne hasked hne, h.issued]
  · simp only [Machine.schedule, generation?, UriMap.get?_set, if_neg hne.symm]
    exact hdisarm.record
  · simp only [Machine.schedule, List.filter_append, List.filter_cons, List.filter_nil, hne,
      decide_false, Bool.false_eq_true, if_false, List.append_nil, hdisarm.jobs]

theorem Mirrors.close (h : Mirrors uri asked m single) (hn : Numbered asked m) :
    Mirrors uri asked (m.close uri) (single.close uri) := by
  have hdisarm := h.disarm hn
  refine ⟨hdisarm.issued, ?_, hdisarm.jobs⟩
  simp only [Machine.close, generation?, UriMap.get?_erase_self, Option.map_none]

theorem Mirrors.close_other (h : Mirrors uri asked m single) (hn : Numbered asked m)
    {other : Uri} (hne : other ≠ uri) : Mirrors uri asked (m.close other) single := by
  have hdisarm := h.disarm_other hn hne
  refine ⟨hdisarm.issued, ?_, hdisarm.jobs⟩
  simp only [Machine.close, generation?, UriMap.get?_erase_of_ne _ hne.symm]
  exact hdisarm.record

/-- A job that was found for a document has a number of the document. -/
theorem Numbered.isRequest_of_hasJobFor (hn : Numbered asked m) {g : Nat}
    (h : m.hasJobFor uri g = true) : IsRequest asked uri g := by
  rcases hasJobFor_iff.mp h with ⟨job, hjob, rfl⟩
  rcases job?_eq_some hjob with ⟨hmem, rfl⟩
  exact hn.job job hmem

/-- If the job with a number is of another document, so are all jobs with that number. -/
theorem Numbered.uri_ne_of_not_hasJobFor (hn : Numbered asked m) {g : Nat}
    (h : m.hasJobFor uri g = false) : ∀ job ∈ m.jobs, job.generation = g → job.uri ≠ uri := by
  intro job hjob hgen huri
  have hsome : (m.job? g).isSome = true :=
    List.find?_isSome.mpr ⟨job, hjob, decide_eq_true hgen⟩
  rcases Option.isSome_iff_exists.mp hsome with ⟨found, hfound⟩
  rcases job?_eq_some hfound with ⟨hmem, hfgen⟩
  have hrequest : IsRequest asked uri g := hgen ▸ huri ▸ hn.job job hjob
  have hhas := hasJobFor_iff.mpr ⟨found, hfound, hn.uri_eq hrequest hmem hfgen⟩
  rw [h] at hhas
  exact Bool.false_ne_true hhas

/-! ## One event -/

variable {e : Event α}

/-- What a machine puts out for a document. -/
def outputsFor (uri : Uri) (outs : List (Output α)) : List (Output α) :=
  outs.filter fun o => o.uri = uri

theorem outputsFor_of_uri_eq {o : Output α} (h : o.uri = uri) : outputsFor uri [o] = [o] :=
  List.filter_cons_of_pos (decide_eq_true h)

theorem outputsFor_of_uri_ne {o : Output α} (h : o.uri ≠ uri) : outputsFor uri [o] = [] :=
  List.filter_cons_of_neg (Bool.not_eq_true _ ▸ decide_eq_false h)

/-- An event of the document is taken by both machines, with the same outputs. -/
theorem Mirrors.step_of_concerns (h : Mirrors uri asked m single) (hn : Numbered asked m)
    (hasked : ∀ other text, e = .schedule other text → asked[m.issued]? = some other)
    (hc : m.concerns uri e = true) :
    Mirrors uri asked (m.step e).1 (single.step (e.renumber (rank uri asked))).1 ∧
      (single.step (e.renumber (rank uri asked))).2 =
        (outputsFor uri (m.step e).2).map (Output.renumber (rank uri asked)) := by
  cases e with
  | schedule other text =>
      have hother : other = uri := of_decide_eq_true hc
      subst hother
      exact ⟨h.schedule hn text (hasked _ _ rfl), rfl⟩
  | close other =>
      have hother : other = uri := of_decide_eq_true hc
      subst hother
      have hout : (Output.clear other : Output α).uri = other := rfl
      simp only [step, outputsFor_of_uri_eq hout]
      exact ⟨h.close hn, rfl⟩
  | fire g =>
      have hg := hn.isRequest_of_hasJobFor hc
      simp only [step, Event.renumber, h.armed? hn hg]
      rcases hfound : m.armed? g with _ | job
      · exact ⟨h, rfl⟩
      · rcases armed?_eq_some hfound with ⟨hmem, hgen, -⟩
        have huri := hn.uri_eq hg hmem hgen
        simp only [Option.map_some, h.isCurrent hn hmem huri]
        by_cases hcur : m.isCurrent job = true
        · have hout : (Output.validate g job.uri job.text : Output α).uri = uri := huri
          simp only [if_pos hcur, outputsFor_of_uri_eq hout]
          exact ⟨h.dispatch hn hg, rfl⟩
        · rw [if_neg hcur, if_neg hcur]
          exact ⟨h.remove hn hg, rfl⟩
  | complete g result =>
      have hg := hn.isRequest_of_hasJobFor hc
      simp only [step, Event.renumber, h.validating? hn hg]
      rcases hfound : m.validating? g with _ | job
      · exact ⟨h, rfl⟩
      · rcases validating?_eq_some hfound with ⟨hmem, hgen, -⟩
        have huri := hn.uri_eq hg hmem hgen
        simp only [Option.map_some, h.isCurrent hn hmem huri]
        refine ⟨h.remove hn hg, ?_⟩
        by_cases hcur : m.isCurrent job = true
        · have hout : (Output.publish g job.uri result : Output α).uri = uri := huri
          rw [if_pos hcur, if_pos hcur, outputsFor_of_uri_eq hout]
          rfl
        · rw [if_neg hcur, if_neg hcur]
          rfl
  | fail g =>
      have hg := hn.isRequest_of_hasJobFor hc
      simp only [step, Event.renumber, h.validating? hn hg]
      rcases m.validating? g with _ | job
      · exact ⟨h, rfl⟩
      · exact ⟨h.remove hn hg, rfl⟩
  | reap g =>
      have hg := hn.isRequest_of_hasJobFor hc
      simp only [step, Event.renumber, h.cancelled? hn hg]
      rcases m.cancelled? g with _ | job
      · exact ⟨h, rfl⟩
      · exact ⟨h.remove hn hg, rfl⟩
  | beginShutdown => exact ⟨h.map (fun _ => rfl) fun _ _ _ => rfl, rfl⟩
  | endShutdown =>
      -- Without a job in the larger machine, the smaller one has none either.
      have hjobs : m.jobs = [] := List.isEmpty_iff.mp hc
      have hsingle : single.jobs = [] := by
        rw [h.jobs, hjobs]
        rfl
      simp only [step, Event.renumber, hjobs, hsingle, List.isEmpty_nil, if_true]
      exact ⟨⟨h.issued, rfl, rfl⟩, rfl⟩

/-- An event of another document changes nothing that the smaller machine has, and puts
    out nothing for the document. -/
theorem Mirrors.step_of_not_concerns (h : Mirrors uri asked m single) (hn : Numbered asked m)
    (hasked : ∀ other text, e = .schedule other text → asked[m.issued]? = some other)
    (hc : m.concerns uri e = false) :
    Mirrors uri asked (m.step e).1 single ∧ outputsFor uri (m.step e).2 = [] := by
  cases e with
  | schedule other text =>
      have hother : other ≠ uri := of_decide_eq_false hc
      exact ⟨h.schedule_other hn text (hasked _ _ rfl) hother, rfl⟩
  | close other =>
      have hother : other ≠ uri := of_decide_eq_false hc
      exact ⟨h.close_other hn hother, outputsFor_of_uri_ne hother⟩
  | fire g =>
      have hg := hn.uri_ne_of_not_hasJobFor hc
      simp only [step]
      rcases hfound : m.armed? g with _ | job
      · exact ⟨h, rfl⟩
      · rcases armed?_eq_some hfound with ⟨hmem, hgen, -⟩
        by_cases hcur : m.isCurrent job = true
        · simp only [if_pos hcur]
          exact ⟨h.dispatch_other hg, outputsFor_of_uri_ne (hg job hmem hgen)⟩
        · simp only [if_neg hcur]
          exact ⟨h.remove_other hg, rfl⟩
  | complete g result =>
      have hg := hn.uri_ne_of_not_hasJobFor hc
      simp only [step]
      rcases hfound : m.validating? g with _ | job
      · exact ⟨h, rfl⟩
      · rcases validating?_eq_some hfound with ⟨hmem, hgen, -⟩
        refine ⟨h.remove_other hg, ?_⟩
        by_cases hcur : m.isCurrent job = true
        · simp only [if_pos hcur]
          exact outputsFor_of_uri_ne (hg job hmem hgen)
        · simp only [if_neg hcur]
          rfl
  | fail g =>
      have hg := hn.uri_ne_of_not_hasJobFor hc
      simp only [step]
      rcases m.validating? g with _ | job
      · exact ⟨h, rfl⟩
      · exact ⟨h.remove_other hg, rfl⟩
  | reap g =>
      have hg := hn.uri_ne_of_not_hasJobFor hc
      simp only [step]
      rcases m.cancelled? g with _ | job
      · exact ⟨h, rfl⟩
      · exact ⟨h.remove_other hg, rfl⟩
  | beginShutdown => exact absurd hc (by simp [concerns])
  | endShutdown =>
      -- A shutdown that is not complete changes nothing at all.
      have hjobs : ¬m.jobs.isEmpty = true := Bool.eq_false_iff.mp hc
      simp only [step, if_neg hjobs]
      exact ⟨h, rfl⟩

/-- Whether an event does something in a machine: a timer that fires is running, a
    validation that ends was started, and a shutdown is complete when no job is left. -/
def Possible (m : Machine) : Event α → Prop
  | .schedule _ _ => True
  | .close _ => True
  | .fire g => (m.armed? g).isSome = true
  | .complete g _ => (m.validating? g).isSome = true
  | .fail g => (m.validating? g).isSome = true
  | .reap g => (m.cancelled? g).isSome = true
  | .beginShutdown => True
  | .endShutdown => m.jobs = []

/-- What is possible in the larger machine is possible in the smaller one. -/
theorem Mirrors.possible (h : Mirrors uri asked m single) (hn : Numbered asked m)
    (hc : m.concerns uri e = true) (hpossible : m.Possible e) :
    single.Possible (e.renumber (rank uri asked)) := by
  cases e with
  | schedule other text => trivial
  | close other => trivial
  | fire g =>
      have hg := hn.isRequest_of_hasJobFor hc
      simp only [Event.renumber, Possible, h.armed? hn hg, Option.isSome_map]
      exact hpossible
  | complete g result =>
      have hg := hn.isRequest_of_hasJobFor hc
      simp only [Event.renumber, Possible, h.validating? hn hg, Option.isSome_map]
      exact hpossible
  | fail g =>
      have hg := hn.isRequest_of_hasJobFor hc
      simp only [Event.renumber, Possible, h.validating? hn hg, Option.isSome_map]
      exact hpossible
  | reap g =>
      have hg := hn.isRequest_of_hasJobFor hc
      simp only [Event.renumber, Possible, h.cancelled? hn hg, Option.isSome_map]
      exact hpossible
  | beginShutdown => trivial
  | endShutdown =>
      have hjobs : m.jobs = [] := hpossible
      simp only [Event.renumber, Possible, h.jobs, hjobs, List.filter_nil, List.map_nil]

/-- A validation that ends as a function says does so in both machines. -/
theorem Mirrors.agrees (h : Mirrors uri asked m single) (hn : Numbered asked m)
    (hc : m.concerns uri e = true) {validate : Uri → Text → Option (List α)}
    (hagrees : Agrees validate m e) : Agrees validate single (e.renumber (rank uri asked)) := by
  cases e with
  | complete g result =>
      intro job hjob
      rw [h.validating? hn (hn.isRequest_of_hasJobFor hc), Option.map_eq_some_iff] at hjob
      rcases hjob with ⟨found, hfound, rfl⟩
      exact hagrees found hfound
  | fail g =>
      intro job hjob
      rw [h.validating? hn (hn.isRequest_of_hasJobFor hc), Option.map_eq_some_iff] at hjob
      rcases hjob with ⟨found, hfound, rfl⟩
      exact hagrees found hfound
  | schedule other text => trivial
  | close other => trivial
  | fire g => trivial
  | reap g => trivial
  | beginShutdown => trivial
  | endShutdown => trivial

/-- A document waits for a result in both machines or in neither. -/
theorem Mirrors.isPending (h : Mirrors uri asked m single) (hn : Numbered asked m) :
    single.isPending uri = m.isPending uri := by
  rw [Machine.isPending, Machine.isPending, h.record]
  rcases hrecord : m.generation? uri with _ | g
  · rfl
  · simp only [Option.map_some, h.job? hn (hn.record uri g hrecord), Option.isSome_map]

end Step

/-! ## Whole runs -/

theorem numbered_after (first rest : List (Event α)) :
    Numbered (requests (first ++ rest)) (after first) := by
  rw [requests_append]
  exact ⟨fun job hjob => (isRequest_of_mem_jobs first job hjob).append _,
    fun uri g hg => (isRequest_of_generation? first hg).append _⟩

/-- After every part of a run, the machine of one document mirrors that of all documents,
    and has put out the same for the document. -/
theorem mirrors_alone (uri : Uri) (first rest : List (Event α)) :
    Mirrors uri (requests (first ++ rest)) (after first)
      (after (alone uri (rank uri (requests (first ++ rest))) first)) ∧
    outputs (alone uri (rank uri (requests (first ++ rest))) first) =
      (outputsFor uri (outputs first)).map
        (Output.renumber (rank uri (requests (first ++ rest)))) := by
  induction first using List.reverseRecOn generalizing rest with
  | nil => exact ⟨.initial uri _, rfl⟩
  | append_singleton first e ih =>
      have hstep := ih (e :: rest)
      have hn := numbered_after first (e :: rest)
      have hasked : ∀ other text, e = .schedule other text →
          (requests (first ++ e :: rest))[(after first).issued]? = some other := by
        rintro other text rfl
        exact requests_at_issued first other text rest
      rw [List.append_cons] at hstep hn hasked
      rw [after_snoc, outputs_snoc, outputsFor, List.filter_append, List.map_append]
      by_cases hc : (after first).concerns uri e = true
      · rcases hstep.1.step_of_concerns hn hasked hc with ⟨hmirrors, hout⟩
        rw [alone_snoc_of_concerns hc, after_snoc, outputs_snoc, hstep.2, hout]
        exact ⟨hmirrors, rfl⟩
      · rw [Bool.not_eq_true] at hc
        rcases hstep.1.step_of_not_concerns hn hasked hc with ⟨hmirrors, hout⟩
        rw [outputsFor] at hout
        rw [alone_snoc_of_not_concerns hc, hstep.2, hout, List.map_nil, List.append_nil]
        exact ⟨hmirrors, rfl⟩

theorem filterMap_outputsFor {β : Type} {uri : Uri} {ρ : Nat → Nat} {f : Output α → Option β}
    (hother : ∀ o, o.uri ≠ uri → f o = none) (hrenumber : ∀ o, f (o.renumber ρ) = f o)
    (outs : List (Output α)) :
    ((outputsFor uri outs).map (Output.renumber ρ)).filterMap f = outs.filterMap f := by
  have hf : f ∘ Output.renumber ρ = f := funext hrenumber
  rw [List.filterMap_map, hf, outputsFor, List.filterMap_filter]
  refine List.filterMap_congr fun o _ => ?_
  by_cases huri : o.uri = uri
  · simp only [huri, decide_true, if_true]
  · simp only [huri, decide_false, Bool.false_eq_true, if_false, hother o huri]

/-- A document looks the same after two runs, up to the numbers of its requests. -/
structure LooksSame (uri : Uri) (ρ : Nat → Nat) (whole single : List (Event α)) : Prop where
  validated : (outputs single).filterMap (Output.validatedFor? uri) =
    (outputs whole).filterMap (Output.validatedFor? uri)
  published : (outputs single).filterMap (Output.resultFor? uri) =
    (outputs whole).filterMap (Output.resultFor? uri)
  outputs : outputs single = (outputsFor uri (outputs whole)).map (Output.renumber ρ)
  pending : (after single).isPending uri = (after whole).isPending uri
  record : (after single).generation? uri = ((after whole).generation? uri).map ρ
  issued : (after single).issued = ρ (after whole).issued

theorem looksSame_alone (uri : Uri) (first rest : List (Event α)) :
    LooksSame uri (rank uri (requests (first ++ rest))) first
      (alone uri (rank uri (requests (first ++ rest))) first) := by
  rcases mirrors_alone uri first rest with ⟨hmirrors, hout⟩
  refine ⟨?_, ?_, hout, hmirrors.isPending (numbered_after first rest), hmirrors.record,
    hmirrors.issued⟩
  · rw [hout]
    refine filterMap_outputsFor (fun o ho => ?_) (fun o => ?_) _
    · cases o with
      | validate g other text => exact if_neg ho
      | publish g other result => rfl
      | clear other => rfl
    · cases o <;> rfl
  · rw [hout]
    refine filterMap_outputsFor (fun o ho => ?_) (fun o => ?_) _
    · cases o with
      | validate g other text => rfl
      | publish g other result => exact if_neg ho
      | clear other => exact if_neg ho
    · cases o <;> rfl

/-- Documents do not interfere. A run without the events of other documents shows the
    document as the whole run shows it, after each of the events that remain: the same texts
    are validated, the same results are published, the document waits or does not wait for
    a result, and it has a record or none. Only the numbers of the requests differ, and they
    keep their order.

    What remains is again a run: it takes the events of the document in their order, what
    was possible stays possible, and validations that were answered by a function of the
    document and the text are answered by it still. -/
theorem documents_do_not_interfere (events : List (Event α)) (uri : Uri) :
    let ρ := rank uri (requests events)
    (∀ g g', IsRequest (requests events) uri g' → g < g' → ρ g < ρ g') ∧
    (∀ first, first <+: events → LooksSame uri ρ first (alone uri ρ first)) ∧
    ∀ before e, before ++ [e] <+: events →
      ((after before).concerns uri e = false →
        alone uri ρ (before ++ [e]) = alone uri ρ before) ∧
      ((after before).concerns uri e = true →
        alone uri ρ (before ++ [e]) = alone uri ρ before ++ [e.renumber ρ] ∧
        ((after before).Possible e → (after (alone uri ρ before)).Possible (e.renumber ρ)) ∧
        ∀ validate, Agrees validate (after before) e →
          Agrees validate (after (alone uri ρ before)) (e.renumber ρ)) := by
  intro ρ
  refine ⟨fun g g' hg' hlt => rank_lt hg' hlt, ?_, ?_⟩
  · rintro first ⟨rest, hfirst⟩
    subst hfirst
    exact looksSame_alone uri first rest
  · rintro before e ⟨rest, hbefore⟩
    refine ⟨fun hc => alone_snoc_of_not_concerns hc, fun hc => ?_⟩
    rw [List.append_assoc] at hbefore
    subst hbefore
    have hmirrors := (mirrors_alone uri before ([e] ++ rest)).1
    have hn := numbered_after before ([e] ++ rest)
    exact ⟨alone_snoc_of_concerns hc, hmirrors.possible hn hc,
      fun validate => hmirrors.agrees hn hc⟩

-- The second request for a document is the third of all. Without the others it is the second.
example :
    let events : List (Event Nat) := [.schedule "a" [], .schedule "b" [], .schedule "a" ['x'],
      .fire 3, .fire 2, .complete 2 [5], .complete 3 [7]]
    alone "a" (rank "a" (requests events)) events =
      [.schedule "a" [], .schedule "a" ['x'], .fire 2, .complete 2 [7]] := by
  rfl

end Machine

end RiddlEditor
