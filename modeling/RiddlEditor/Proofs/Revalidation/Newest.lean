import RiddlEditor.Proofs.Revalidation.Run

/-!
# The newest request wins

Whatever the order in which requests, timers and validations come, a result is published
only if it belongs to the newest request for its document, and only if the document was
not closed and no shutdown was completed since.

Old validations keep running after their documents were changed, closed or opened again,
so they may end at any time. What keeps them quiet is that the record of a document names
the newest request by its number, and that no number is given out twice. Two invariants
carry the proof: every record is the number of a request that stands
(`standing_of_generation?`), and a job that has the number of a request carries the text of
that request and no other (`served`).

## Main definitions

* `Output.number?`, `Output.numberFor?`: The request that a published result belongs to.
* `Output.Precedes`: The order in which results may be published.
* `Standing`: A request of a run that was neither followed by another one for its
  document nor taken back.
* `Served`: What a run does about a request.

## Theorems

* `served`: Every run serves its requests.
* `standing_of_generation?`: Every record is the number of a request that stands.
* `published_numbers_le`: A result that was published has no job any more.
* `outputs_pairwise`: Requests are published once and in their order.
* `standing_of_publish`: What is published is the result of a request that stands.
* `publications_are_newest`: Only the newest request for a document is published.
-/

namespace RiddlEditor

/-- The number of the request that a published result belongs to. -/
def Output.number? {α : Type} : Output α → Option Nat
  | .publish g _ _ => some g
  | _ => none

/-- The number of the request that a result published for a document belongs to. -/
def Output.numberFor? {α : Type} (uri : Uri) : Output α → Option Nat
  | .publish g other _ => if other = uri then some g else none
  | _ => none

/-- The document that diagnostics are published for. A closed document has none of them
    from then on. -/
def Output.published? {α : Type} : Output α → Option (Uri × List α)
  | .publish _ uri result => some (uri, result)
  | .clear uri => some (uri, [])
  | .validate _ _ _ => none

/-- Two results in the order in which they are published belong to different requests and,
    if they are published for one document, to an older and a newer one. -/
def Output.Precedes {α : Type} (first second : Output α) : Prop :=
  ∀ g uri result g' uri' result', first = .publish g uri result →
    second = .publish g' uri' result' → g ≠ g' ∧ (uri = uri' → g < g')

namespace Machine

variable {α : Type}

/-- A request of a run that stands at its end. It was made between `before` and `later`
    and was given the number `g`; since then its document was neither requested again nor
    closed, and no shutdown was completed. A shutdown is complete when no job is alive. -/
structure Standing (events : List (Event α)) (uri : Uri) (text : Text) (g : Nat)
    (before later : List (Event α)) : Prop where
  split : events = before ++ .schedule uri text :: later
  number : (after (before ++ [.schedule uri text])).issued = g
  not_scheduled : ∀ newer, .schedule uri newer ∉ later
  not_closed : .close uri ∉ later
  not_shut_down : ∀ mid, mid ++ [.endShutdown] <+: later →
    (after (before ++ .schedule uri text :: mid)).jobs ≠ []

/-- A request that was just made stands. -/
theorem Standing.made (events : List (Event α)) (uri : Uri) (text : Text) :
    Standing (events ++ [.schedule uri text]) uri text ((after events).issued + 1) events [] where
  split := rfl
  number := by rw [after_snoc, issued_step_schedule]
  not_scheduled := fun _ => List.not_mem_nil
  not_closed := List.not_mem_nil
  not_shut_down := fun mid h => by simp at h

/-- A request stands until another event takes it back. -/
theorem Standing.snoc {events before later : List (Event α)} {uri : Uri} {text : Text} {g : Nat}
    (h : Standing events uri text g before later) (e : Event α)
    (hschedule : ∀ newer, e ≠ .schedule uri newer) (hclose : e ≠ .close uri)
    (hshutdown : e = .endShutdown → (after events).jobs ≠ []) :
    Standing (events ++ [e]) uri text g before (later ++ [e]) where
  split := by rw [h.split, List.append_assoc, List.cons_append]
  number := h.number
  not_scheduled := fun newer hmem => by
    rcases List.mem_append.mp hmem with hmem | hmem
    · exact h.not_scheduled newer hmem
    · exact hschedule newer (List.mem_singleton.mp hmem).symm
  not_closed := fun hmem => by
    rcases List.mem_append.mp hmem with hmem | hmem
    · exact h.not_closed hmem
    · exact hclose (List.mem_singleton.mp hmem).symm
  not_shut_down := fun mid hmid => by
    rcases List.prefix_concat_iff.mp hmid with heq | hmid
    · rcases List.append_inj' heq rfl with ⟨rfl, he⟩
      rw [← h.split]
      exact hshutdown (List.singleton_inj.mp he).symm
    · exact h.not_shut_down mid hmid

/-- What a run does about a request: every job that has the number of the request has its
    document and its text, and if the job was dispatched, its validation was started with
    that text. -/
def Served (before : List (Event α)) (uri : Uri) (text : Text) (later : List (Event α)) : Prop :=
  ∀ job ∈ (after (before ++ .schedule uri text :: later)).jobs,
    job.generation = (after before).issued + 1 →
      job.uri = uri ∧ job.text = text ∧
        (job.dispatched = true → .validate ((after before).issued + 1) uri text ∈
          ((after before).run (.schedule uri text :: later)).2)

/-- The job that a request makes has its text and was not dispatched yet. -/
theorem Served.made (before : List (Event α)) (uri : Uri) (text : Text) :
    Served before uri text [] := by
  intro job hjob hgen
  rw [after_snoc] at hjob
  rcases mem_jobs_step hjob with ⟨old, hold, hcarries⟩ | ⟨other, newer, he, rfl⟩
  · -- A job from before the request has a smaller number.
    have hle := jobs_le_issued before old hold
    rw [← hcarries.older.generation, hgen] at hle
    exact absurd hle (Nat.not_succ_le_self _)
  · injection he with hu ht
    subst hu ht
    exact ⟨rfl, rfl, fun hd => absurd hd Bool.false_ne_true⟩

/-- Whatever happens later, the job of a request keeps its text, and its validation starts
    with it. -/
theorem Served.snoc {before later : List (Event α)} {uri : Uri} {text : Text}
    (h : Served before uri text later) (e : Event α) :
    Served before uri text (later ++ [e]) := by
  intro job hjob hgen
  rw [← List.cons_append, ← List.append_assoc, after_snoc] at hjob
  -- The outputs since the request are the earlier ones and those of the new event.
  rw [← List.cons_append, run_append, run_singleton, ← after_append]
  rcases mem_jobs_step hjob with ⟨old, hold, hcarries⟩ | ⟨other, newer, he, rfl⟩
  · have holder := hcarries.older
    rcases h old hold (holder.generation.symm.trans hgen) with ⟨huri, htext, hval⟩
    refine ⟨holder.uri.trans huri, holder.text.trans htext, fun hd => ?_⟩
    rcases hcarries.dispatched with hsame | ⟨found, hfound, hfgen, hout⟩
    · exact List.mem_append_left _ (hval (hsame ▸ hd))
    · rw [hgen] at hfgen hout
      rcases h found hfound hfgen with ⟨hfuri, hftext, -⟩
      rw [hfuri, hftext] at hout
      exact List.mem_append_right _ hout
  · -- The number of the request was given out before.
    have hle := issued_le_append (before ++ [.schedule uri text]) later
    rw [after_snoc, issued_step_schedule, List.append_assoc, List.singleton_append] at hle
    simp only at hgen
    omega

/-- Every run serves its requests. -/
theorem served (before : List (Event α)) (uri : Uri) (text : Text) (later : List (Event α)) :
    Served before uri text later := by
  induction later using List.reverseRecOn with
  | nil => exact .made before uri text
  | append_singleton later e ih => exact ih.snoc e

/-- Every record of a run is the number of a request that stands. -/
theorem standing_of_generation? (events : List (Event α)) {uri : Uri} {g : Nat}
    (h : (after events).generation? uri = some g) :
    ∃ text before later, Standing events uri text g before later := by
  induction events using List.reverseRecOn with
  | nil =>
      simp only [after, run, initial, generation?, UriMap.get?, List.find?_nil, Option.map_none,
        reduceCtorEq] at h
  | append_singleton events e ih =>
      rw [after_snoc] at h
      rcases generation?_step_eq_some h with ⟨text, rfl, rfl⟩ | ⟨h, hschedule, hclose, hshutdown⟩
      · exact ⟨text, events, [], .made events uri text⟩
      · rcases ih h with ⟨text, before, later, hstanding⟩
        exact ⟨text, before, later ++ [e], hstanding.snoc e hschedule hclose hshutdown⟩

/-! ## What is published -/

/-- A result that was published has no job any more, and its request is not newer than the
    record of its document. -/
theorem published_numbers_le (events : List (Event α)) {g : Nat} {uri : Uri} {result : List α}
    (h : .publish g uri result ∈ outputs events) :
    g ≤ (after events).issued ∧ (∀ job ∈ (after events).jobs, job.generation ≠ g) ∧
      ∀ newest, (after events).generation? uri = some newest → g ≤ newest := by
  induction events using List.reverseRecOn with
  | nil => exact absurd h List.not_mem_nil
  | append_singleton events e ih =>
      rw [outputs_snoc] at h
      rw [after_snoc]
      rcases List.mem_append.mp h with h | h
      · -- It was published before, and the event can only add newer requests.
        rcases ih h with ⟨hg, hjobs, hrecord⟩
        refine ⟨Nat.le_trans hg (issued_le_step _ e), fun job hjob => ?_, fun newest hn => ?_⟩
        · rcases mem_jobs_step hjob with ⟨old, hold, hcarries⟩ | ⟨other, text, -, rfl⟩
          · rw [hcarries.older.generation]
            exact hjobs old hold
          · exact fun hc => absurd (hc ▸ hg) (Nat.not_succ_le_self _)
        · rcases generation?_step_eq_some hn with ⟨text, -, rfl⟩ | ⟨hn, -⟩
          · exact Nat.le_succ_of_le hg
          · exact hrecord newest hn
      · -- The event publishes it, which ends its job.
        rcases publish_mem_step h with ⟨rfl, job, hjob, rfl, hcur⟩
        rcases validating?_eq_some hjob with ⟨hmem, hgen, -⟩
        have hissued := jobs_le_issued events job hmem
        refine ⟨?_, fun other hother => not_mem_jobs_complete hjob hother, fun newest hn => ?_⟩
        · rw [← hgen]
          exact Nat.le_trans hissued (issued_le_step _ _)
        · rw [generation?_step] at hn
          exact Nat.le_of_eq (Option.some.inj (hcur.symm.trans hn))

theorem outputs_pairwise (events : List (Event α)) :
    (outputs events).Pairwise Output.Precedes := by
  induction events using List.reverseRecOn with
  | nil => exact List.Pairwise.nil
  | append_singleton events e ih =>
      rw [outputs_snoc, List.pairwise_append]
      refine ⟨ih, ?_, ?_⟩
      · -- One event puts out one thing at most.
        rcases outputs_step (after events) e with h | ⟨_, -, h⟩ | ⟨_, _, -, -, -, h⟩ |
          ⟨_, _, _, -, -, -, h⟩
        · rw [h]
          exact List.Pairwise.nil
        all_goals
          rw [h]
          exact List.pairwise_singleton _ _
      · intro first hfirst second hsecond g uri result g' uri' result' hg hg'
        subst hg hg'
        rcases published_numbers_le events hfirst with ⟨-, hjobs, hrecord⟩
        rcases publish_mem_step hsecond with ⟨-, job, hjob, -, hcur⟩
        rcases validating?_eq_some hjob with ⟨hmem, hgen, -⟩
        -- The job of the second result is still alive, that of the first is not.
        have hne : g ≠ g' := fun hc => hjobs job hmem (hgen.trans hc.symm)
        refine ⟨hne, fun hu => ?_⟩
        subst hu
        exact Nat.lt_of_le_of_ne (hrecord g' hcur) hne

/-- A result that an event publishes is what the validation of the newest request for its
    document has returned. -/
theorem standing_of_publish {events : List (Event α)} {e : Event α} {g : Nat} {uri : Uri}
    {result : List α} (h : .publish g uri result ∈ ((after events).step e).2) :
    e = .complete g result ∧
      ∃ text before later, Standing events uri text g before later ∧
        .validate g uri text ∈ ((after before).run (.schedule uri text :: later)).2 := by
  rcases publish_mem_step h with ⟨he, job, hjob, -, hcur⟩
  rcases validating?_eq_some hjob with ⟨hmem, hgen, hdisp⟩
  rcases standing_of_generation? events hcur with ⟨text, before, later, hstanding⟩
  refine ⟨he, text, before, later, hstanding, ?_⟩
  have hnumber := hstanding.number
  rw [after_snoc, issued_step_schedule] at hnumber
  rw [hstanding.split] at hmem
  rw [← hnumber] at hgen ⊢
  exact (served before uri text later job hmem hgen).2.2 hdisp

/-- What stands behind the end of a run that closes the document was requested after it
    was closed. -/
theorem Standing.after_close {before mid first later : List (Event α)} {uri : Uri} {text : Text}
    {g : Nat} (h : Standing (before ++ .close uri :: mid) uri text g first later) :
    ∃ made, mid = made ++ .schedule uri text :: later ∧
      (after (before ++ .close uri :: (made ++ [.schedule uri text]))).issued = g := by
  rcases List.append_eq_append_iff.mp h.split with ⟨made, rfl, hmade⟩ | ⟨rest, -, hrest⟩
  · cases made with
    | nil => simp at hmade
    | cons e made =>
        rw [List.cons_append, List.cons.injEq] at hmade
        rcases hmade with ⟨rfl, hmid⟩
        refine ⟨made, hmid, ?_⟩
        have hnumber := h.number
        rwa [List.append_assoc, List.cons_append] at hnumber
  · -- Otherwise the close would come after the request.
    cases rest with
    | nil => simp at hrest
    | cons e rest =>
        rw [List.cons_append, List.cons.injEq] at hrest
        exact absurd (hrest.2 ▸ List.mem_append_right _ List.mem_cons_self) h.not_closed

/-- Only the newest request for a document is published. Whatever an event publishes after
    a run, it is what the validation of the newest request for the document has returned,
    and since that request the document was not closed and no shutdown was completed. So no
    request is published twice, the requests that are published for one document get newer
    and newer, and after a document was closed nothing but an empty list is published for
    it until the result of a request comes that was made after the close. -/
theorem publications_are_newest (events : List (Event α)) :
    (∀ (e : Event α) g uri result, .publish g uri result ∈ ((after events).step e).2 →
      e = .complete g result ∧
        ∃ text before later, Standing events uri text g before later ∧
          .validate g uri text ∈ ((after before).run (.schedule uri text :: later)).2) ∧
    ((outputs events).filterMap Output.number?).Nodup ∧
    (∀ uri, ((outputs events).filterMap (Output.numberFor? uri)).Pairwise (· < ·)) ∧
    ∀ before uri later, events = before ++ .close uri :: later →
      ((after before).step (.close uri : Event α)).2 = [.clear uri] ∧
      ∀ o ∈ ((after (before ++ [.close uri])).run later).2, ∀ result : List α,
        o.published? = some (uri, result) →
          o = .clear uri ∨
          ∃ g text made rest, o = .publish g uri result ∧
            later = made ++ .schedule uri text :: rest ∧
            (after (before ++ .close uri :: (made ++ [.schedule uri text]))).issued = g := by
  refine ⟨fun e g uri result h => standing_of_publish h, ?_, fun uri => ?_, ?_⟩
  · rw [List.Nodup, List.pairwise_filterMap]
    refine (outputs_pairwise events).imp ?_
    intro first second hprecedes g hg g' hg'
    cases first <;> simp only [Output.number?, reduceCtorEq, Option.some.injEq] at hg
    cases second <;> simp only [Output.number?, reduceCtorEq, Option.some.injEq] at hg'
    subst hg hg'
    exact (hprecedes _ _ _ _ _ _ rfl rfl).1
  · rw [List.pairwise_filterMap]
    refine (outputs_pairwise events).imp ?_
    intro first second hprecedes g hg g' hg'
    cases first <;> simp only [Output.numberFor?, reduceCtorEq, Option.ite_none_right_eq_some,
      Option.some.injEq] at hg
    cases second <;> simp only [Output.numberFor?, reduceCtorEq, Option.ite_none_right_eq_some,
      Option.some.injEq] at hg'
    rcases hg with ⟨hu, rfl⟩
    rcases hg' with ⟨hu', rfl⟩
    exact (hprecedes _ _ _ _ _ _ rfl rfl).2 (hu.trans hu'.symm)
  · intro before uri later hsplit
    refine ⟨rfl, fun o ho result hpub => ?_⟩
    rcases mem_outputs_run ho with ⟨mid, e, ⟨tail, rfl⟩, hstep⟩
    cases o with
    | validate g other text => simp [Output.published?] at hpub
    | clear other =>
        simp only [Output.published?, Option.some.injEq, Prod.mk.injEq] at hpub
        exact Or.inl (by rw [hpub.1])
    | publish g other shown =>
        simp only [Output.published?, Option.some.injEq, Prod.mk.injEq] at hpub
        rcases hpub with ⟨rfl, rfl⟩
        rw [← after_append, List.append_assoc, List.singleton_append] at hstep
        rcases standing_of_publish hstep with ⟨-, text, first, last, hstanding, -⟩
        rcases hstanding.after_close with ⟨made, rfl, hnumber⟩
        refine Or.inr ⟨g, text, made, last ++ (e :: tail), rfl, ?_, hnumber⟩
        simp only [List.append_assoc, List.cons_append, List.nil_append]

-- A validation that ends after a newer one was published is not heard of.
example :
    (outputs [.schedule "a" [], .fire 1, .schedule "a" ['x'], .fire 2, .complete 2 [5],
      .complete 1 [7], .close "a"] : List (Output Nat)) =
      [.validate 1 "a" [], .validate 2 "a" ['x'], .publish 2 "a" [5], .clear "a"] := by
  rfl

end Machine

end RiddlEditor
