import RiddlEditor.Compiler.Local
import RiddlEditor.Proofs.Revalidation.Quiescence
import RiddlEditor.Proofs.Revalidation.Timeline
import RiddlEditor.Session

/-!
# What diagnostics are converted against

The diagnostics of a document are found in one text and converted a while later, against the
text that the document has then. A server does not keep the text that was validated, so the two
are the same only if nobody has changed the document in between.

The machine sees to that, as far as it can: a change is a newer request, and what is published
belongs to the newest request for its document (`standing_of_publish`). But it tells
documents apart by the spelling of their names, and the documents themselves are found under
every spelling. A request under another spelling changes the text and does not take the older
request back, so the result of that one is converted against a text that it is not about
(`converted_against_other_text`). As long as a client stays with one spelling of a name, this
cannot happen.

## Main definitions

* `Session.Reached`: A server that has come from its start, with the events of its machine.
* `Event.textFor?`, `lastText`: What the calls say about the text of a document.

## Theorems

* `Reached.machine_eq`, `Reached.text_eq`: The machine and the texts of a server.
* `Reached.advance`, `Reached.shutdown`: The other things that a server does.
* `converted_against_validated_text`: What diagnostics are converted against.
* `converted_against_other_text`: A document that is called by two spellings of its name.
-/

namespace RiddlEditor

open Machine

/-- What an event says about the text of a document with a name: a request tells the text, and
    a close that there is none. -/
def Event.textFor? {α : Type} (name : Uri) : Event α → Option (Option Text)
  | .schedule uri text => if documentName uri = name then some (some text) else none
  | .close uri => if documentName uri = name then some none else none
  | _ => none

/-- The text of a document by the last call for it, under any spelling of its name. -/
def lastText {α : Type} (name : Uri) (events : List (Event α)) : Option Text :=
  (events.filterMap (Event.textFor? name)).getLast?.join

section LastText

variable {α : Type} {name : Uri} {e : Event α}

theorem lastText_snoc_of_some (events : List (Event α)) {text : Option Text}
    (h : e.textFor? name = some text) : lastText name (events ++ [e]) = text := by
  rw [lastText, List.filterMap_append, List.filterMap_cons_some h, List.filterMap_nil,
    List.getLast?_concat]
  rfl

theorem lastText_append_of_none (events : List (Event α)) {later : List (Event α)}
    (h : ∀ e ∈ later, e.textFor? name = none) :
    lastText name (events ++ later) = lastText name events := by
  rw [lastText, List.filterMap_append, List.filterMap_eq_nil_iff.mpr h, List.append_nil]
  rfl

theorem textFor?_of_isCall_eq_false (name : Uri) (h : e.isCall = false) :
    e.textFor? name = none := by
  cases e with
  | schedule uri text => exact absurd h Bool.noConfusion
  | close uri => exact absurd h Bool.noConfusion
  | _ => rfl

/-- Nothing is said about a document that is not called for under any spelling. -/
theorem textFor?_of_noCalls {later : List (Event α)}
    (h : ∀ uri, documentName uri = name → NoCalls uri later) :
    ∀ e ∈ later, e.textFor? name = none := by
  intro e he
  cases e with
  | schedule uri text =>
      by_cases hname : documentName uri = name
      · exact absurd he ((h uri hname).not_scheduled text)
      · exact if_neg hname
  | close uri =>
      by_cases hname : documentName uri = name
      · exact absurd he (h uri hname).not_closed
      · exact if_neg hname
  | _ => rfl

end LastText

namespace Session

/-- A server that has come from its start, with the events that its machine went through. A
    notification that is refused leaves the server as it is. When jobs run is left open, and so
    is what the clock shows. -/
inductive Reached : List (Event Diagnostic) → Session → Prop where
  | start (service : Service) (encoding : Encoding) : Reached [] (start service encoding)
  | configured {events : List (Event Diagnostic)} {s : Session} (h : Reached events s)
      (options : Options) : Reached events (s.configure options)
  | opened {events : List (Event Diagnostic)} {s next : Session} {uri : Uri} {text : Text}
      (h : Reached events s) (hopen : s.openDocument uri text = .ok next) :
      Reached (events ++ [.schedule uri text]) next
  | changed {events : List (Event Diagnostic)} {s next : Session} {uri : Uri} {text : Text}
      (h : Reached events s) (hchange : s.changeDocument uri text = .ok next) :
      Reached (events ++ [.schedule uri text]) next
  | closed {events : List (Event Diagnostic)} {s : Session} (h : Reached events s) (uri : Uri) :
      Reached (events ++ [.close uri]) (s.closeDocument uri).1
  | worked {events : List (Event Diagnostic)} {s : Session} (h : Reached events s)
      {e : Event Diagnostic} (he : e.isCall = false) :
      Reached (events ++ [e]) (s.publish (s.timeline.apply e)).1
  | waited {events : List (Event Diagnostic)} {s : Session} (h : Reached events s)
      {t : Timeline Diagnostic} (ht : t.machine = s.timeline.machine) :
      Reached events { s with timeline := t }

/-! ## The machine and the texts -/

section Calls

variable (s : Session)

theorem machine_begin : s.begin.timeline.machine = s.timeline.machine := by
  rw [begin]
  split <;> rfl

theorem documents_begin : s.begin.documents = s.documents := by
  rw [begin]
  split <;> rfl

theorem machine_schedule (uri : Uri) (text : Text) :
    (s.schedule uri text).timeline.machine =
      (s.timeline.machine.step (.schedule uri text : Event Diagnostic)).1 := by
  have hbegin := machine_begin s
  change (s.begin.timeline.machine.step (.schedule uri text : Event Diagnostic)).1 = _
  rw [hbegin]

theorem documents_schedule (uri : Uri) (text : Text) :
    (s.schedule uri text).documents = s.documents :=
  documents_begin s

theorem machine_closeDocument (uri : Uri) :
    (s.closeDocument uri).1.timeline.machine =
      (s.timeline.machine.step (.close uri : Event Diagnostic)).1 := by
  let without : Session := { s with documents := s.documents.erase (documentName uri) }
  have hbegin : without.begin.timeline.machine = s.timeline.machine := machine_begin without
  change (without.begin.timeline.machine.step (.close uri : Event Diagnostic)).1 = _
  rw [hbegin]

theorem documents_closeDocument (uri : Uri) :
    (s.closeDocument uri).1.documents = s.documents.erase (documentName uri) :=
  documents_begin { s with documents := s.documents.erase (documentName uri) }

variable {s} {next : Session} {uri : Uri} {text : Text}

/-- A document that is opened has its text, and is scheduled. -/
theorem exists_of_openDocument (h : s.openDocument uri text = .ok next) :
    ∃ document : OpenDocument, document.text = text ∧
      next = (s.store uri document).schedule uri text := by
  rw [openDocument] at h
  split at h
  case h_1 => exact ⟨⟨uri, text⟩, rfl, (Except.ok.inj h).symm⟩
  case h_2 => exact nomatch h

/-- So has a document that is changed. -/
theorem exists_of_changeDocument (h : s.changeDocument uri text = .ok next) :
    ∃ document : OpenDocument, document.text = text ∧
      next = (s.store uri document).schedule uri text := by
  rw [changeDocument] at h
  split at h
  case h_1 document _ => exact ⟨{ document with text }, rfl, (Except.ok.inj h).symm⟩
  case h_2 => exact nomatch h

end Calls

variable {events : List (Event Diagnostic)} {s : Session}

/-- The machine of a server is what its events make of it. -/
theorem Reached.machine_eq (h : Reached events s) : s.timeline.machine = after events := by
  induction h with
  | start => rfl
  | configured _ _ ih => exact ih
  | opened _ hopen ih =>
      rcases exists_of_openDocument hopen with ⟨document, _, rfl⟩
      rw [machine_schedule, after_snoc, ← ih]
      rfl
  | changed _ hchange ih =>
      rcases exists_of_changeDocument hchange with ⟨document, _, rfl⟩
      rw [machine_schedule, after_snoc, ← ih]
      rfl
  | closed _ uri ih => rw [machine_closeDocument, after_snoc, ih]
  | worked _ _ ih =>
      rw [after_snoc, ← ih]
      rfl
  | waited _ ht ih => exact ht.trans ih

/-- What a server puts out is what its machine puts out. -/
theorem Reached.outputs_eq (h : Reached events s) (e : Event Diagnostic) :
    (s.timeline.apply e).2 = ((after events).step e).2 := by
  rw [← h.machine_eq]
  rfl

/-- A document that is stored has its text, and the others stay. -/
theorem text_store (s : Session) (uri name : Uri) (document : OpenDocument) :
    ((s.store uri document).documents.get? name).map OpenDocument.text =
      if documentName uri = name then some document.text
      else (s.documents.get? name).map OpenDocument.text := by
  rw [store, UriMap.get?_set]
  by_cases hname : documentName uri = name
  · rw [if_pos hname, if_pos hname.symm, Option.map_some]
  · rw [if_neg hname, if_neg (Ne.symm hname)]

/-- The text of a document after a call that tells one. -/
theorem text_snoc (name : Uri) {uri : Uri} {text : Text} {document : OpenDocument}
    (htext : document.text = text)
    (ih : (s.documents.get? name).map OpenDocument.text = lastText name events) :
    (((s.store uri document).schedule uri text).documents.get? name).map OpenDocument.text =
      lastText name (events ++ [.schedule uri text]) := by
  rw [documents_schedule, text_store, htext, ih]
  by_cases hname : documentName uri = name
  · have hcall : (.schedule uri text : Event Diagnostic).textFor? name = some (some text) :=
      if_pos hname
    rw [if_pos hname, lastText_snoc_of_some events hcall]
  · rw [if_neg hname, lastText_append_of_none events]
    exact List.forall_mem_singleton.mpr (if_neg hname)

/-- The text of a document is that of the last call for it, under any spelling of its name. -/
theorem Reached.text_eq (h : Reached events s) (name : Uri) :
    (s.documents.get? name).map OpenDocument.text = lastText name events := by
  induction h with
  | start => rfl
  | configured _ _ ih => exact ih
  | opened _ hopen ih =>
      rcases exists_of_openDocument hopen with ⟨document, htext, rfl⟩
      exact text_snoc name htext ih
  | changed _ hchange ih =>
      rcases exists_of_changeDocument hchange with ⟨document, htext, rfl⟩
      exact text_snoc name htext ih
  | @closed events s _ uri ih =>
      rw [documents_closeDocument, UriMap.get?_erase]
      by_cases hname : documentName uri = name
      · have hcall : (.close uri : Event Diagnostic).textFor? name = some none := if_pos hname
        rw [if_pos hname.symm, lastText_snoc_of_some events hcall, Option.map_none]
      · rw [if_neg (Ne.symm hname), ih, lastText_append_of_none events]
        exact List.forall_mem_singleton.mpr (if_neg hname)
  | @worked events s _ e he ih =>
      rw [lastText_append_of_none events
        (List.forall_mem_singleton.mpr (textFor?_of_isCall_eq_false name he))]
      exact ih
  | waited _ _ ih => exact ih

/-! ## Time -/

/-- Jobs that run lead to a server that is reached with their events. -/
theorem Reached.run (h : Reached events s) {more : List (Event Diagnostic)}
    (hmore : ∀ e ∈ more, e.isCall = false) {t : Timeline Diagnostic}
    (ht : t.machine = (s.timeline.machine.run more).1) :
    Reached (events ++ more) { s with timeline := t } := by
  induction more generalizing events s with
  | nil =>
      rw [List.append_nil]
      exact h.waited ht
  | cons e more ih =>
      have hall := List.forall_mem_cons.mp hmore
      rw [List.append_cons]
      have hlast := ih (h.worked hall.1) hall.2 ht
      exact hlast

/-- A step in which jobs run leads to a server that is reached, too. -/
theorem Reached.runs (h : Reached events s) {next : Timeline Diagnostic × List (Output Diagnostic)}
    (hruns : Timeline.Runs s.timeline next) :
    ∃ more, Reached (events ++ more) { s with timeline := next.1 } := by
  rcases hruns with ⟨more, hmore, hrun⟩
  exact ⟨more, h.run hmore (by rw [hrun])⟩

theorem Reached.advance (h : Reached events s) (seconds : Float) :
    ∃ more, Reached (events ++ more) (s.advance seconds).1 :=
  h.runs (Timeline.runs_advance s.validation s.timeline seconds)

theorem Reached.shutdown (h : Reached events s) : ∃ more, Reached (events ++ more) s.shutdown :=
  h.runs (Timeline.runs_shutdown s.timeline)

/-! ## Publishing -/

/-- Diagnostics are converted against the text that the document has. -/
theorem publication?_of_document {uri : Uri} {document : OpenDocument}
    (h : s.document? uri = some document) (g : Nat) (d : Diagnostic) (ds : List Diagnostic) :
    s.publication? (.publish g uri (d :: ds)) =
      (convertDiagnostics (some (ClientText.ofText document.text s.encoding)) (d :: ds)).toOption.map
        fun converted => ⟨uri, converted⟩ := by
  simp only [publication?, h, clientText]
  cases convertDiagnostics (some (ClientText.ofText document.text s.encoding)) (d :: ds) <;> rfl

/-- What diagnostics are converted against. Whatever a step publishes that is not empty, it is
    what the validation of a text has returned, and this is the text of the newest request
    under the spelling that it is published for. If since that request there was no call for
    another spelling of the name, then the document has this text, so the diagnostics are
    converted against the text that they were found in. -/
theorem converted_against_validated_text (h : Reached events s) {e : Event Diagnostic} {g : Nat}
    {uri : Uri} {d : Diagnostic} {ds : List Diagnostic}
    (hpublish : .publish g uri (d :: ds) ∈ (s.timeline.apply e).2) :
    e = .complete g (d :: ds) ∧
      ∃ text before later, Standing events uri text g before later ∧
        .validate g uri text ∈ ((after before).run (.schedule uri text :: later)).2 ∧
        ((∀ other, other ≠ uri → documentName other = documentName uri → NoCalls other later) →
          (s.document? uri).map OpenDocument.text = some text ∧
          s.publication? (.publish g uri (d :: ds)) =
            (convertDiagnostics (some (ClientText.ofText text s.encoding)) (d :: ds)).toOption.map
              fun converted => ⟨uri, converted⟩) := by
  rw [h.outputs_eq] at hpublish
  rcases standing_of_publish hpublish with ⟨he, text, before, later, hstanding, hvalidate⟩
  refine ⟨he, text, before, later, hstanding, hvalidate, fun hothers => ?_⟩
  -- The request is the last call for the document, by its own spelling and by all others.
  have hcalls : ∀ other, documentName other = documentName uri → NoCalls other later := by
    intro other hname
    by_cases hother : other = uri
    · exact hother ▸ ⟨hstanding.not_scheduled, hstanding.not_closed⟩
    · exact hothers other hother hname
  have htext : (s.document? uri).map OpenDocument.text = some text := by
    rw [document?, h.text_eq, hstanding.split, List.append_cons,
      lastText_append_of_none _ (textFor?_of_noCalls hcalls)]
    exact lastText_snoc_of_some before (if_pos rfl)
  refine ⟨htext, ?_⟩
  rcases Option.map_eq_some_iff.mp htext with ⟨document, hdocument, rfl⟩
  exact publication?_of_document hdocument g d ds

section Spellings

variable (s : Session) {uri name : Uri}

/-- A document is found under every spelling of its name. -/
theorem document?_schedule (document : OpenDocument) (text : Text)
    (h : documentName name = documentName uri) :
    ((s.store uri document).schedule uri text).document? name = some document := by
  rw [document?, documents_schedule, store, UriMap.get?_set, if_pos h]

/-- A server with a document that was opened, then changed under a spelling of its name, and
    then a timer fires. -/
theorem reached_of_change (service : Service) (encoding : Encoding)
    (hopen : ∃ parts, UriParts.ofText uri.toList = .ok parts)
    (hname : documentName name = documentName uri) (first text : Text) (g : Nat) :
    ∃ s, Reached [.schedule uri first, .schedule name text, .fire g] s ∧
      s.service = service ∧ s.options = Options.defaults ∧ s.encoding = encoding := by
  let s := start service encoding
  let next := (s.store uri ⟨uri, first⟩).schedule uri first
  have hopened : s.openDocument uri first = .ok next := by
    rcases hopen with ⟨parts, hparts⟩
    rw [openDocument, hparts]
  have hdocument : next.document? name = some ⟨uri, first⟩ := document?_schedule s _ first hname
  have hchanged : next.changeDocument name text =
      .ok ((next.store name ⟨uri, text⟩).schedule name text) := by
    rw [changeDocument, hdocument]
  have hreached := ((Reached.start service encoding).opened hopened).changed hchanged
  exact ⟨_, hreached.worked (e := .fire g) rfl, rfl, rfl, rfl⟩

end Spellings

/-- A text with a finding. -/
theorem exists_finding :
    ∃ d ds, (runValidation localService "\n$".toList "file:///a%20b.riddl".toList
      Options.defaults).diagnostics = d :: ds := by
  have hsome : (runValidation localService "\n$".toList "file:///a%20b.riddl".toList
      Options.defaults).diagnostics.isEmpty = false := by decide +kernel
  exact List.exists_cons_of_ne_nil (List.isEmpty_eq_false_iff.mp hsome)

/-- A document that was changed before its first text was validated, always under one spelling
    of its name. -/
theorem converted_against_validated_text_after_change :
    let uri := "file:///a%20b.riddl"
    let text := "\n$".toList
    let events : List (Event Diagnostic) := [.schedule uri [], .schedule uri text, .fire 2]
    ∃ s d ds, Reached events s ∧ (s.validation uri text).result = some (d :: ds) ∧
      .publish 2 uri (d :: ds) ∈ (s.timeline.apply (.complete 2 (d :: ds))).2 ∧
      (s.document? uri).map OpenDocument.text = some text ∧
      s.publication? (.publish 2 uri (d :: ds)) =
        (convertDiagnostics (some (ClientText.ofText text .utf16)) (d :: ds)).toOption.map
          fun converted => ⟨uri, converted⟩ := by
  intro uri text events
  have hopen : ∃ parts, UriParts.ofText "file:///a%20b.riddl".toList = .ok parts := ⟨_, rfl⟩
  rcases reached_of_change localService .utf16 hopen rfl [] text 2 with
    ⟨s, hreached, hservice, hoptions, hencoding⟩
  rcases exists_finding with ⟨d, ds, hresult⟩
  have hpublish : .publish 2 uri (d :: ds) ∈ (s.timeline.apply (.complete 2 (d :: ds))).2 := by
    rw [hreached.outputs_eq]
    exact List.mem_singleton_self _
  rcases converted_against_validated_text hreached hpublish with
    ⟨_, found, before, later, hstanding, _, hconverted⟩
  -- No other spelling occurs among the events at all.
  have hothers : ∀ other, other ≠ uri → documentName other = documentName uri →
      NoCalls other later := by
    intro other hother _
    have hcalls : NoCalls other events := by
      constructor
      · intro newer hmem
        simp only [events, List.mem_cons, Event.schedule.injEq, List.not_mem_nil, reduceCtorEq,
          or_false] at hmem
        rcases hmem with ⟨rfl, _⟩ | ⟨rfl, _⟩ <;> exact hother rfl
      · intro hmem
        simp [events] at hmem
    refine hcalls.of_subset fun e he => ?_
    rw [show events = _ from hstanding.split]
    exact List.mem_append_right before (List.mem_cons_of_mem _ he)
  rcases hconverted hothers with ⟨htext, hpublication⟩
  have hlast : (s.document? uri).map OpenDocument.text = some text := by
    rw [document?, hreached.text_eq]
    decide +kernel
  obtain rfl : found = text := Option.some.inj (htext.symm.trans hlast)
  rw [hencoding] at hpublication
  refine ⟨s, d, ds, hreached, ?_, hpublish, hlast, hpublication⟩
  rw [validation, hservice, hoptions, hresult]

/-- A document that was opened under one spelling of its name and then changed under another
    one, before its first text was validated. What was found in the first text is published
    all the same, and it is converted against the new text. -/
theorem converted_against_other_text :
    let uri := "file:///a%20b.riddl"
    let other := "file:///a b.riddl"
    let text := "\n$".toList
    let events : List (Event Diagnostic) := [.schedule uri text, .schedule other ['x'], .fire 1]
    documentName other = documentName uri ∧ text ≠ ['x'] ∧
    ∃ s d ds, Reached events s ∧ .validate 1 uri text ∈ outputs events ∧
      (s.validation uri text).result = some (d :: ds) ∧
      .publish 1 uri (d :: ds) ∈ (s.timeline.apply (.complete 1 (d :: ds))).2 ∧
      (s.document? uri).map OpenDocument.text = some ['x'] ∧
      s.publication? (.publish 1 uri (d :: ds)) =
        (convertDiagnostics (some (ClientText.ofText ['x'] .utf16)) (d :: ds)).toOption.map
          fun converted => ⟨uri, converted⟩ := by
  intro uri other text events
  have hopen : ∃ parts, UriParts.ofText "file:///a%20b.riddl".toList = .ok parts := ⟨_, rfl⟩
  have hname : documentName "file:///a b.riddl" = documentName "file:///a%20b.riddl" := by
    decide +kernel
  rcases reached_of_change localService .utf16 hopen hname text ['x'] 1 with
    ⟨s, hreached, hservice, hoptions, hencoding⟩
  rcases exists_finding with ⟨d, ds, hresult⟩
  have hpublish : .publish 1 uri (d :: ds) ∈ (s.timeline.apply (.complete 1 (d :: ds))).2 := by
    rw [hreached.outputs_eq]
    exact List.mem_singleton_self _
  have htext : (s.document? uri).map OpenDocument.text = some ['x'] := by
    rw [document?, hreached.text_eq]
    decide +kernel
  refine ⟨hname, by decide, s, d, ds, hreached, List.mem_singleton_self _, ?_, hpublish, htext, ?_⟩
  · rw [validation, hservice, hoptions, hresult]
  · rcases Option.map_eq_some_iff.mp htext with ⟨document, hdocument, hnew⟩
    rw [publication?_of_document hdocument, hnew, hencoding]

end Session

end RiddlEditor
