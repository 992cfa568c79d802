import RiddlEditor.Proofs.Revalidation.Newest
import RiddlEditor.Query

/-!
# No update is lost

When no job is left, every document shows what it should: the result of its newest request
or, if it was closed, nothing.

Safety alone would be met by a machine that publishes nothing. The other half is that the
newest request of an open document always has a job that nobody cancels: a request for
another document cannot reach it, since two documents never have records with one number,
and its own timer finds it current. So the job can only end by its validation
(`Live.snoc`). After that nobody else speaks for the document until its owner calls again
(`Silent`), and what was shown then stays.

A run without a shutdown is meant throughout, since a shutdown gives updates up.

## Main definitions

* `NoCalls`: Events among which there is no call for a document.
* `Output.resultFor?`, `shown`: What a document shows.
* `Live`: The newest request of a document has a job that will validate.
* `Silent`: No job can publish for a document.
* `Returned`, `Failed`: How the validation of a request has ended.
* `Answers`: A run whose validations are answered by a function.

## Theorems

* `silent_run`: What a silent document shows stays.
* `Live.snoc`: A live request stays live until its validation ends.
* `ended_of_quiescent`: When no job is left, the newest validation has ended.
* `quiescent_shows_newest`: What the documents show when no job is left.
-/

namespace RiddlEditor

/-- The list that is published for a document, if any is. -/
def Output.resultFor? {α : Type} (uri : Uri) (o : Output α) : Option (List α) :=
  match o.published? with
  | some (other, result) => if other = uri then some result else none
  | none => none

namespace Machine

variable {α : Type}

/-- What was published last for a document. -/
def shown (uri : Uri) (outs : List (Output α)) : Option (List α) :=
  (outs.filterMap (Output.resultFor? uri)).getLast?

theorem shown_append_of_silent {uri : Uri} (outs : List (Output α)) {more : List (Output α)}
    (h : ∀ o ∈ more, o.resultFor? uri = none) : shown uri (outs ++ more) = shown uri outs := by
  rw [shown, List.filterMap_append, List.filterMap_eq_nil_iff.mpr h, List.append_nil]
  rfl

theorem shown_snoc {uri : Uri} (outs : List (Output α)) {o : Output α} {result : List α}
    (h : o.resultFor? uri = some result) : shown uri (outs ++ [o]) = some result := by
  rw [shown, List.filterMap_append, List.filterMap_cons_some h]
  exact List.getLast?_concat

/-- Events among which a document is neither requested nor closed. -/
structure NoCalls (uri : Uri) (later : List (Event α)) : Prop where
  not_scheduled : ∀ text, .schedule uri text ∉ later
  not_closed : .close uri ∉ later

theorem NoCalls.of_subset {uri : Uri} {later part : List (Event α)} (h : NoCalls uri later)
    (hsub : part ⊆ later) : NoCalls uri part :=
  ⟨fun text ht => h.not_scheduled text (hsub ht), fun hc => h.not_closed (hsub hc)⟩

/-! ## Silence -/

/-- No job is the newest request for a document. -/
def Silent (m : Machine) (uri : Uri) : Prop :=
  ∀ job ∈ m.jobs, job.uri = uri → m.generation? uri ≠ some job.generation

/-- As long as a silent document is not called for, it stays silent and nothing is published
    for it. -/
theorem Silent.step {m : Machine} {uri : Uri} {e : Event α} (h : m.Silent uri)
    (hcalls : NoCalls uri [e]) :
    (m.step e).1.Silent uri ∧ ∀ o ∈ (m.step e).2, o.resultFor? uri = none := by
  have hschedule : ∀ text, e ≠ .schedule uri text :=
    fun text he => hcalls.not_scheduled text (he ▸ List.mem_singleton_self e)
  have hclose : e ≠ .close uri := fun he => hcalls.not_closed (he ▸ List.mem_singleton_self e)
  constructor
  · intro job hjob huri hcur
    rcases mem_jobs_step hjob with ⟨old, hold, hcarries⟩ | ⟨other, text, rfl, rfl⟩
    · have holder := hcarries.older
      rcases generation?_step_eq_some hcur with ⟨text, he, -⟩ | ⟨hcur, -⟩
      · exact hschedule text he
      · rw [holder.generation] at hcur
        exact h old hold (holder.uri.symm.trans huri) hcur
    · -- The only new job is that of a request, which would be a call.
      exact hschedule text (by rw [← huri])
  · intro o ho
    cases o with
    | validate g other text => rfl
    | clear other =>
        have he := clear_mem_step ho
        have hne : other ≠ uri := fun hu => hclose (hu ▸ he)
        simp only [Output.resultFor?, Output.published?, if_neg hne]
    | publish g other result =>
        rcases publish_mem_step ho with ⟨-, job, hjob, huri, hcur⟩
        rcases validating?_eq_some hjob with ⟨hmem, hgen, -⟩
        have hne : other ≠ uri := fun hu => by
          subst hu
          exact h job hmem huri (hgen ▸ hcur)
        simp only [Output.resultFor?, Output.published?, if_neg hne]

theorem silent_run {m : Machine} {uri : Uri} {later : List (Event α)} (h : m.Silent uri)
    (hcalls : NoCalls uri later) : ∀ o ∈ (m.run later).2, o.resultFor? uri = none := by
  induction later generalizing m with
  | nil => exact fun o ho => absurd ho List.not_mem_nil
  | cons e later ih =>
      have hfirst := h.step (e := e) (hcalls.of_subset (by simp))
      intro o ho
      rcases List.mem_append.mp ho with ho | ho
      · exact hfirst.2 o ho
      · exact ih hfirst.1 (hcalls.of_subset (List.subset_cons_self e later)) o ho

/-- What a document shows when it falls silent is what it shows from then on. -/
theorem shown_of_silent {first last : List (Event α)} {uri : Uri}
    (h : (after first).Silent uri) (hcalls : NoCalls uri last) :
    shown uri (outputs (first ++ last)) = shown uri (outputs first) := by
  rw [outputs_append]
  exact shown_append_of_silent _ (silent_run h hcalls)

/-! ## The newest request -/

/-- A document keeps its record while it is not called for. -/
theorem generation?_of_noCalls (before : List (Event α)) (uri : Uri) (text : Text)
    {later : List (Event α)} (hcalls : NoCalls uri later) (hshutdown : .endShutdown ∉ later) :
    (after (before ++ .schedule uri text :: later)).generation? uri =
      some ((after before).issued + 1) := by
  induction later using List.reverseRecOn with
  | nil =>
      rw [after_snoc, generation?_step]
      exact if_pos rfl
  | append_singleton later e ih =>
      rw [← List.cons_append, ← List.append_assoc, after_snoc, generation?_step_eq]
      · refine ih (hcalls.of_subset (by simp)) fun h => hshutdown ?_
        exact List.mem_append_left _ h
      · exact fun newer he => hcalls.not_scheduled newer (by simp [he])
      · exact fun he => hcalls.not_closed (by simp [he])
      · exact fun he => hshutdown (by simp [he])

/-- The newest request of a document, with its number, has a job, and its job was not
    cancelled. -/
structure Live (events : List (Event α)) (uri : Uri) (g : Nat) : Prop where
  record : (after events).generation? uri = some g
  alive : ∃ job ∈ (after events).jobs, job.generation = g
  kept : ∀ job ∈ (after events).jobs, job.generation = g → job.uri = uri ∧ job.cancelled = false

theorem Live.made (before : List (Event α)) (uri : Uri) (text : Text) :
    Live (before ++ [.schedule uri text]) uri ((after before).issued + 1) where
  record := generation?_of_noCalls before uri text ⟨by simp, by simp⟩ (by simp)
  alive := by
    rw [after_snoc]
    refine ⟨⟨(after before).issued + 1, uri, text, false, false⟩, ?_, rfl⟩
    simp only [step, schedule, issued_disarm, List.mem_append, List.mem_singleton, or_true]
  kept := fun job hjob hgen => by
    rw [after_snoc] at hjob
    rcases mem_jobs_step hjob with ⟨old, hold, hcarries⟩ | ⟨other, newer, he, rfl⟩
    · have hle := jobs_le_issued before old hold
      rw [← hcarries.older.generation, hgen] at hle
      exact absurd hle (Nat.not_succ_le_self _)
    · injection he with hu ht
      exact ⟨hu.symm, rfl⟩

/-- No other document has the record of a live request. -/
theorem Live.uri_eq {events : List (Event α)} {uri other : Uri} {g : Nat}
    (h : Live events uri g) (hrecord : (after events).generation? other = some g) :
    other = uri := by
  rcases h.alive with ⟨job, hjob, hgen⟩
  rcases standing_of_generation? events hrecord with ⟨text, before, later, hstanding⟩
  have hnumber := hstanding.number
  rw [after_snoc, issued_step_schedule] at hnumber
  have hserved := served before other text later job (hstanding.split ▸ hjob)
    (hgen.trans hnumber.symm)
  exact hserved.1.symm.trans (h.kept job hjob hgen).1

/-- Whether an event ends the validation of the job that has a number. -/
def EndsValidation (m : Machine) (e : Event α) (g : Nat) : Prop :=
  ((∃ result, e = .complete g result) ∨ e = .fail g) ∧ (m.validating? g).isSome

/-- A live request stays live until it is called for again or its validation ends. -/
theorem Live.snoc {events : List (Event α)} {uri : Uri} {g : Nat} (h : Live events uri g)
    (e : Event α) (hcalls : NoCalls uri [e]) (hbegin : e ≠ .beginShutdown)
    (hend : e ≠ .endShutdown) :
    Live (events ++ [e]) uri g ∨ (after events).EndsValidation e g := by
  have hschedule : ∀ text, e ≠ .schedule uri text :=
    fun text he => hcalls.not_scheduled text (he ▸ List.mem_singleton_self e)
  have hclose : e ≠ .close uri := fun he => hcalls.not_closed (he ▸ List.mem_singleton_self e)
  rcases h.alive with ⟨job, hjob, hgen⟩
  by_cases hends : (after events).Ends e g
  · -- Of the ways to end, only those of a validation are open to the job.
    cases hends with
    | complete result hfound =>
        exact Or.inr ⟨Or.inl ⟨result, rfl⟩, Option.isSome_iff_exists.mpr ⟨_, hfound⟩⟩
    | fail hfound => exact Or.inr ⟨Or.inr rfl, Option.isSome_iff_exists.mpr ⟨_, hfound⟩⟩
    | reap hfound =>
        rcases cancelled?_eq_some hfound with ⟨hmem, hfgen, hcancelled⟩
        rw [(h.kept _ hmem hfgen).2] at hcancelled
        exact absurd hcancelled Bool.false_ne_true
    | expire hfound hcur =>
        rcases armed?_eq_some hfound with ⟨hmem, hfgen, -⟩
        rw [isCurrent, decide_eq_false_iff_not, (h.kept _ hmem hfgen).1, hfgen] at hcur
        exact absurd h.record hcur
  · left
    rcases survives_step hjob (hgen.symm ▸ hends) with ⟨next, hnext, holder⟩
    refine ⟨?_, ⟨next, by rwa [after_snoc], holder.generation.trans hgen⟩, fun job' hjob' hgen' => ?_⟩
    · rw [after_snoc, generation?_step_eq hschedule hclose hend]
      exact h.record
    · rw [after_snoc] at hjob'
      rcases mem_jobs_step hjob' with ⟨old, hold, hcarries⟩ | ⟨other, text, he, rfl⟩
      · have hogen := hcarries.older.generation.symm.trans hgen'
        rcases h.kept old hold hogen with ⟨huri, hkept⟩
        refine ⟨hcarries.older.uri.trans huri, ?_⟩
        rcases hcarries.cancelled with hsame | hshut | ⟨other, hcall, hrecord⟩
        · exact hsame.trans hkept
        · exact absurd hshut hbegin
        · -- A call that cancels the job would be a call for its own document.
          have hother := h.uri_eq (hgen' ▸ hrecord)
          subst hother
          rcases hcall with ⟨text, he⟩ | he
          · exact absurd he (hschedule text)
          · exact absurd he hclose
      · -- The number of a live request was given out before.
        have hle := jobs_le_issued events job hjob
        simp only at hgen'
        omega

/-- After a request that is not called for again, either the request is live or one of the
    events has ended its validation. -/
theorem live_or_ended (before : List (Event α)) (uri : Uri) (text : Text)
    {later : List (Event α)} (hcalls : NoCalls uri later) (hbegin : .beginShutdown ∉ later)
    (hend : .endShutdown ∉ later) :
    Live (before ++ .schedule uri text :: later) uri ((after before).issued + 1) ∨
      ∃ mid e, mid ++ [e] <+: later ∧
        (after (before ++ .schedule uri text :: mid)).EndsValidation e
          ((after before).issued + 1) := by
  induction later using List.reverseRecOn with
  | nil => exact Or.inl (.made before uri text)
  | append_singleton later e ih =>
      rcases ih (hcalls.of_subset (by simp)) (fun h => hbegin (by simp [h]))
        (fun h => hend (by simp [h])) with hlive | ⟨mid, last, hprefix, hends⟩
      · rcases hlive.snoc e (hcalls.of_subset (by simp)) (fun he => hbegin (by simp [he]))
          (fun he => hend (by simp [he])) with hlive | hends
        · rw [List.append_assoc, List.cons_append] at hlive
          exact Or.inl hlive
        · exact Or.inr ⟨later, e, List.prefix_rfl, hends⟩
      · exact Or.inr ⟨mid, last, hprefix.trans (List.prefix_append later [e]), hends⟩

/-- While the job of a request is alive, the run has come past the request. -/
theorem split_of_alive {before first rest later : List (Event α)} {uri : Uri} {text : Text}
    {job : Job} (hsplit : first ++ rest = before ++ .schedule uri text :: later)
    (hjob : job ∈ (after first).jobs) (hgen : job.generation = (after before).issued + 1) :
    ∃ mid, first = before ++ .schedule uri text :: mid ∧ later = mid ++ rest := by
  have hle := jobs_le_issued first job hjob
  rcases List.append_eq_append_iff.mp hsplit with ⟨gap, rfl, -⟩ | ⟨mid, rfl, hmid⟩
  · have hmono := issued_le_append first gap
    omega
  · cases mid with
    | nil =>
        rw [List.append_nil] at hle
        omega
    | cons e mid =>
        rw [List.cons_append, List.cons.injEq] at hmid
        rcases hmid with ⟨rfl, rfl⟩
        exact ⟨mid, rfl, rfl⟩

/-- A document whose newest request has no job any more is silent. -/
theorem silent_of_record {m : Machine} {uri : Uri} {g : Nat} (hrecord : m.generation? uri = some g)
    (hgone : ∀ job ∈ m.jobs, job.generation ≠ g) : m.Silent uri := by
  intro job hjob _ hcur
  exact hgone job hjob (Option.some.inj (hcur.symm.trans hrecord))

/-! ## What the documents show -/

/-- The validation of the request with the number `g` returns a result after the part
    `first` of a run. -/
def Returned (events : List (Event α)) (g : Nat) (result : List α) (first : List (Event α)) :
    Prop :=
  first ++ [.complete g result] <+: events ∧ ((after first).validating? g).isSome

/-- The validation of the request with the number `g` fails after the part `first` of a
    run. -/
def Failed (events : List (Event α)) (g : Nat) (first : List (Event α)) : Prop :=
  first ++ [.fail g] <+: events ∧ ((after first).validating? g).isSome

/-- The validation of a request that is not called for again: when it runs, the job has the
    document and the text of the request, and the record of the document. -/
theorem newest_of_validating {before first rest later : List (Event α)} {uri : Uri} {text : Text}
    {job : Job} (hsplit : first ++ rest = before ++ .schedule uri text :: later)
    (hcalls : NoCalls uri later) (hend : .endShutdown ∉ later)
    (hjob : (after first).validating? ((after before).issued + 1) = some job) :
    job.uri = uri ∧ job.text = text ∧
      (after first).generation? uri = some ((after before).issued + 1) ∧ NoCalls uri rest := by
  rcases validating?_eq_some hjob with ⟨hmem, hgen, -⟩
  rcases split_of_alive hsplit hmem hgen with ⟨mid, rfl, rfl⟩
  rcases served before uri text mid job hmem hgen with ⟨huri, htext, -⟩
  refine ⟨huri, htext, ?_, hcalls.of_subset (List.subset_append_right mid rest)⟩
  exact generation?_of_noCalls before uri text
    (hcalls.of_subset (List.subset_append_left mid rest)) fun h => hend (by simp [h])

/-- The result of the newest request is what the document shows from then on. -/
theorem shown_of_returned {events before later first : List (Event α)} {uri : Uri} {text : Text}
    {result : List α} (hsplit : events = before ++ .schedule uri text :: later)
    (hcalls : NoCalls uri later) (hend : .endShutdown ∉ later)
    (h : Returned events ((after before).issued + 1) result first) :
    shown uri (outputs events) = some result := by
  rcases h with ⟨⟨last, hlast⟩, hval⟩
  rcases Option.isSome_iff_exists.mp hval with ⟨job, hjob⟩
  rw [List.append_assoc] at hlast
  rcases newest_of_validating (hlast.trans hsplit) hcalls hend hjob with
    ⟨huri, -, hrecord, hrest⟩
  have hgen := (validating?_eq_some hjob).2.1
  -- The completion publishes the result, and with it the job is gone.
  have hout : ((after first).step (.complete ((after before).issued + 1) result)).2 =
      [.publish ((after before).issued + 1) uri result] := by
    have hcur : (after first).isCurrent job = true := by
      rw [isCurrent, huri, hgen]
      exact decide_eq_true hrecord
    simp only [step, hjob, if_pos hcur, huri]
  have hsilent : (after (first ++ [.complete ((after before).issued + 1) result])).Silent uri := by
    rw [after_snoc]
    refine silent_of_record (g := (after before).issued + 1) ?_ fun other hother =>
      not_mem_jobs_complete hjob hother
    rw [generation?_step_eq (by simp) (by simp) (by simp)]
    exact hrecord
  rw [← hlast, ← List.append_assoc, shown_of_silent hsilent
    (hrest.of_subset (List.subset_append_right _ last)), outputs_snoc, hout]
  refine shown_snoc _ ?_
  simp only [Output.resultFor?, Output.published?, if_true]

/-- If the validation of the newest request fails, the document shows what it showed. -/
theorem shown_of_failed {events before later first : List (Event α)} {uri : Uri} {text : Text}
    (hsplit : events = before ++ .schedule uri text :: later)
    (hcalls : NoCalls uri later) (hend : .endShutdown ∉ later)
    (h : Failed events ((after before).issued + 1) first) :
    shown uri (outputs events) = shown uri (outputs first) := by
  rcases h with ⟨⟨last, hlast⟩, hval⟩
  rcases Option.isSome_iff_exists.mp hval with ⟨job, hjob⟩
  rw [List.append_assoc] at hlast
  rcases newest_of_validating (hlast.trans hsplit) hcalls hend hjob with
    ⟨-, -, hrecord, hrest⟩
  have hout : ((after first).step (.fail ((after before).issued + 1) : Event α)).2 = [] := by
    simp only [step, hjob]
  have hsilent : (after (first ++ [.fail ((after before).issued + 1)])).Silent uri := by
    rw [after_snoc]
    refine silent_of_record (g := (after before).issued + 1) ?_ fun other hother =>
      not_mem_jobs_fail hjob hother
    rw [generation?_step_eq (by simp) (by simp) (by simp)]
    exact hrecord
  rw [← hlast, ← List.append_assoc, shown_of_silent hsilent
    (hrest.of_subset (List.subset_append_right _ last)), outputs_snoc, hout, List.append_nil]

/-- A closed document shows nothing from then on. -/
theorem shown_of_closed {events before later : List (Event α)} {uri : Uri}
    (hsplit : events = before ++ .close uri :: later) (hcalls : NoCalls uri later) :
    shown uri (outputs events) = some [] := by
  have hsilent : (after (before ++ [.close uri])).Silent uri := by
    intro job _ _ hcur
    rw [after_snoc, generation?_step] at hcur
    simp at hcur
  rw [hsplit, List.append_cons, shown_of_silent hsilent hcalls, outputs_snoc]
  refine shown_snoc _ ?_
  simp only [Output.resultFor?, Output.published?, if_true]

/-- When no job is left, the validation of the newest request has returned or failed. -/
theorem ended_of_quiescent {events before later : List (Event α)} {uri : Uri} {text : Text}
    (hsplit : events = before ++ .schedule uri text :: later) (hcalls : NoCalls uri later)
    (hbegin : .beginShutdown ∉ later) (hend : .endShutdown ∉ later)
    (hquiet : (after events).jobs = []) :
    ∃ first, (∃ result, Returned events ((after before).issued + 1) result first) ∨
      Failed events ((after before).issued + 1) first := by
  rcases live_or_ended before uri text hcalls hbegin hend with hlive | ⟨mid, e, hprefix, hends⟩
  · rcases hlive.alive with ⟨job, hjob, -⟩
    rw [← hsplit, hquiet] at hjob
    exact absurd hjob List.not_mem_nil
  · have hpart : before ++ .schedule uri text :: mid ++ [e] <+: events := by
      rw [hsplit, List.append_assoc, List.cons_append, List.prefix_append_right_inj,
        List.cons_prefix_cons]
      exact ⟨rfl, hprefix⟩
    refine ⟨before ++ .schedule uri text :: mid, ?_⟩
    rcases hends with ⟨⟨result, rfl⟩ | rfl, hval⟩
    · exact Or.inl ⟨result, hpart, hval⟩
    · exact Or.inr ⟨hpart, hval⟩

/-! ## Validations with answers -/

/-- Whether an event ends a validation in the way a function says. -/
def Agrees (validate : Uri → Text → Option (List α)) (m : Machine) : Event α → Prop
  | .complete g result =>
    ∀ job, m.validating? g = some job → validate job.uri job.text = some result
  | .fail g => ∀ job, m.validating? g = some job → validate job.uri job.text = none
  | _ => True

/-- Whether all events end validations in the way a function says, which has no result for
    a validation that fails. -/
def Answers (validate : Uri → Text → Option (List α)) (m : Machine) : List (Event α) → Prop
  | [] => True
  | e :: rest => Agrees validate m e ∧ Answers validate (m.step e).1 rest

theorem agrees_of_answers {validate : Uri → Text → Option (List α)} {m : Machine}
    {first last : List (Event α)} {e : Event α} (h : Answers validate m (first ++ e :: last)) :
    Agrees validate (m.run first).1 e := by
  induction first generalizing m with
  | nil => exact h.1
  | cons _ first ih => exact ih h.2

/-- The validation of a document by a compiler service. A service that fails is shown as a
    diagnostic, so there always is a result. -/
def validateDocument (service : Service) (options : Options) (uri : Uri) (text : Text) :
    Option (List Diagnostic) :=
  some (runValidation service text uri.toList options).diagnostics

/-- If validations always have a result, a document that is open when no job is left shows
    the result for its newest text. -/
theorem shown_of_answers {validate : Uri → Text → Option (List α)}
    {events before later : List (Event α)} {uri : Uri} {text : Text} {result : List α}
    (hanswers : Answers validate initial events)
    (hsplit : events = before ++ .schedule uri text :: later) (hcalls : NoCalls uri later)
    (hbegin : .beginShutdown ∉ later) (hend : .endShutdown ∉ later)
    (hquiet : (after events).jobs = []) (hresult : validate uri text = some result) :
    shown uri (outputs events) = some result := by
  rcases ended_of_quiescent hsplit hcalls hbegin hend hquiet with ⟨first, ⟨found, h⟩ | h⟩
  · rcases h with ⟨⟨last, rfl⟩, hval⟩
    rcases Option.isSome_iff_exists.mp hval with ⟨job, hjob⟩
    rw [List.append_assoc] at hsplit hanswers
    rcases newest_of_validating hsplit hcalls hend hjob with ⟨huri, htext, -⟩
    have hfound := agrees_of_answers hanswers job hjob
    rw [huri, htext, hresult] at hfound
    rw [Option.some.inj hfound, List.append_assoc]
    exact shown_of_returned hsplit hcalls hend ⟨⟨last, List.append_assoc _ _ _⟩, hval⟩
  · -- A failure would have no result.
    rcases h with ⟨⟨last, rfl⟩, hval⟩
    rcases Option.isSome_iff_exists.mp hval with ⟨job, hjob⟩
    rw [List.append_assoc] at hsplit hanswers
    rcases newest_of_validating hsplit hcalls hend hjob with ⟨huri, htext, -⟩
    have hfound := agrees_of_answers hanswers job hjob
    rw [huri, htext, hresult] at hfound
    exact absurd hfound (by simp)

/-- What the documents show at the end of a run without a shutdown that leaves no job.

    If the last call for a document was a request, its validation has returned or failed.
    The document shows the result or, after a failure, what it showed when the validation
    failed. If the last call was a close, the document shows nothing. With the validations
    of a compiler service, every open document shows the diagnostics of its newest text. -/
theorem quiescent_shows_newest (events : List (Event Diagnostic))
    (hbegin : .beginShutdown ∉ events) (hend : .endShutdown ∉ events)
    (hquiet : (after events).jobs = []) (uri : Uri) :
    (∀ before text later g, events = before ++ .schedule uri text :: later →
      NoCalls uri later → (after (before ++ [.schedule uri text])).issued = g →
        (∀ first result, Returned events g result first →
          shown uri (outputs events) = some result) ∧
        (∀ first, Failed events g first →
          shown uri (outputs events) = shown uri (outputs first)) ∧
        ∃ first, (∃ result, Returned events g result first) ∨ Failed events g first) ∧
    (∀ before later, events = before ++ .close uri :: later → NoCalls uri later →
      shown uri (outputs events) = some []) ∧
    ∀ service options, Answers (validateDocument service options) initial events →
      ∀ before text later, events = before ++ .schedule uri text :: later → NoCalls uri later →
        shown uri (outputs events) =
          some (runValidation service text uri.toList options).diagnostics := by
  have hpart : ∀ {before later : List (Event Diagnostic)} {e}, events = before ++ e :: later →
      .beginShutdown ∉ later ∧ .endShutdown ∉ later := by
    intro before later e hsplit
    subst hsplit
    exact ⟨fun h => hbegin (by simp [h]), fun h => hend (by simp [h])⟩
  refine ⟨fun before text later g hsplit hcalls hg => ?_, fun before later hsplit hcalls => ?_,
    fun service options hanswers before text later hsplit hcalls => ?_⟩
  · rw [after_snoc, issued_step_schedule] at hg
    subst hg
    exact ⟨fun first result h => shown_of_returned hsplit hcalls (hpart hsplit).2 h,
      fun first h => shown_of_failed hsplit hcalls (hpart hsplit).2 h,
      ended_of_quiescent hsplit hcalls (hpart hsplit).1 (hpart hsplit).2 hquiet⟩
  · exact shown_of_closed hsplit hcalls
  · exact shown_of_answers hanswers hsplit hcalls (hpart hsplit).1 (hpart hsplit).2 hquiet rfl

/-- A document that was changed while its first text was validated, where the validation of
    the first text ends last. -/
theorem quiescent_shows_newest_after_change :
    shown "a" (outputs [.schedule "a" [], .fire 1, .schedule "a" ['x'], .fire 2,
        .complete 2 [failureDiagnostic Failure.overflow], .complete 1 []]) =
      some [failureDiagnostic Failure.overflow] :=
  ((quiescent_shows_newest
      [.schedule "a" [], .fire 1, .schedule "a" ['x'], .fire 2,
        .complete 2 [failureDiagnostic Failure.overflow], .complete 1 []]
      (by simp) (by simp) rfl "a").1 [.schedule "a" [], .fire 1] ['x']
    [.fire 2, .complete 2 [failureDiagnostic Failure.overflow], .complete 1 []] 2 rfl
    ⟨by simp, by simp⟩ rfl).1
    [.schedule "a" [], .fire 1, .schedule "a" ['x'], .fire 2] _
    ⟨⟨[.complete 1 []], rfl⟩, rfl⟩

end Machine

end RiddlEditor
