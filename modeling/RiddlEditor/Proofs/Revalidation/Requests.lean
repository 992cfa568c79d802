import Mathlib.Data.List.Induction
import RiddlEditor.Proofs.Revalidation.Run

/-!
# The requests of a run

Requests are numbered in the order in which they are made, whatever document they are for.
So the list of their documents says for every number that a run knows, in a record or at a
job, which document it belongs to (`isRequest_of_mem_jobs`, `isRequest_of_generation?`).

One document sees only some of these numbers. Its `rank` counts its own requests up to a
number, which is the number the request would have if there were no other documents. Two
requests for one document keep their order when they are counted that way (`rank_lt`).

## Main definitions

* `requests`: The documents of the requests of a run.
* `IsRequest`: Whether a number belongs to a document.
* `rank`: The number of a request among those for one document.

## Theorems

* `issued_eq_length`: As many numbers were given out as requests were made.
* `IsRequest.uri_eq`: A number belongs to one document.
* `isRequest_of_mem_jobs`, `isRequest_of_generation?`: The numbers that a run knows belong
  to its requests.
* `rank_succ_self`, `rank_succ_of_ne`: The rank grows with the requests for the document
  only.
* `rank_lt`, `IsRequest.rank_inj`: The requests for one document keep their order.
-/

namespace RiddlEditor

/-- The document of an event that is a request. -/
def Event.requested? {α : Type} : Event α → Option Uri
  | .schedule uri _ => some uri
  | _ => none

namespace Machine

variable {α : Type}

/-- The documents of the requests of a run, in the order of their numbers. -/
def requests (events : List (Event α)) : List Uri :=
  events.filterMap Event.requested?

/-- Whether a number belongs to a request for a document. Numbers start with one. -/
def IsRequest (asked : List Uri) (uri : Uri) (g : Nat) : Prop :=
  ∃ k, g = k + 1 ∧ asked[k]? = some uri

/-- How many of the requests up to a number are for a document. -/
def rank (uri : Uri) (asked : List Uri) (g : Nat) : Nat :=
  (asked.take g).count uri

/-! ## Numbers and documents -/

theorem requests_append (first rest : List (Event α)) :
    requests (first ++ rest) = requests first ++ requests rest :=
  List.filterMap_append

theorem requests_snoc_of_ne {events : List (Event α)} {e : Event α}
    (h : ∀ uri text, e ≠ .schedule uri text) : requests (events ++ [e]) = requests events := by
  rw [requests_append]
  cases e with
  | schedule uri text => exact absurd rfl (h uri text)
  | _ => exact List.append_nil _

theorem issued_eq_length (events : List (Event α)) :
    (after events).issued = (requests events).length := by
  induction events using List.reverseRecOn with
  | nil => rfl
  | append_singleton events e ih =>
      rw [after_snoc]
      by_cases h : ∃ uri text, e = .schedule uri text
      · rcases h with ⟨uri, text, rfl⟩
        rw [issued_step_schedule, ih, requests_append, List.length_append]
        rfl
      · have hne : ∀ uri text, e ≠ .schedule uri text := fun uri text he => h ⟨uri, text, he⟩
        rw [issued_step hne, ih, requests_snoc_of_ne hne]

/-- A request is asked for under the number that is given out next. -/
theorem requests_at_issued (first : List (Event α)) (uri : Uri) (text : Text)
    (rest : List (Event α)) :
    (requests (first ++ .schedule uri text :: rest))[(after first).issued]? = some uri := by
  rw [requests_append, issued_eq_length, List.getElem?_append_right (Nat.le_refl _), Nat.sub_self]
  rfl

theorem IsRequest.uri_eq {asked : List Uri} {uri other : Uri} {g : Nat}
    (h : IsRequest asked uri g) (hother : IsRequest asked other g) : uri = other := by
  rcases h with ⟨k, rfl, hk⟩
  rcases hother with ⟨k', hg, hk'⟩
  have hkk : k = k' := by omega
  rw [← hkk, hk] at hk'
  exact Option.some.inj hk'

theorem IsRequest.append {asked : List Uri} {uri : Uri} {g : Nat} (h : IsRequest asked uri g)
    (more : List Uri) : IsRequest (asked ++ more) uri g := by
  rcases h with ⟨k, rfl, hk⟩
  have hlt : k < asked.length := (List.getElem?_eq_some_iff.mp hk).1
  exact ⟨k, rfl, by rw [List.getElem?_append_left hlt, hk]⟩

theorem isRequest_made (events : List (Event α)) (uri : Uri) (text : Text) :
    IsRequest (requests (events ++ [.schedule uri text])) uri ((after events).issued + 1) :=
  ⟨_, rfl, requests_at_issued events uri text []⟩

/-- The number of a job belongs to its document. -/
theorem isRequest_of_mem_jobs (events : List (Event α)) :
    ∀ job ∈ (after events).jobs, IsRequest (requests events) job.uri job.generation := by
  induction events using List.reverseRecOn with
  | nil => exact fun job h => absurd h List.not_mem_nil
  | append_singleton events e ih =>
      intro job h
      rw [after_snoc] at h
      rcases mem_jobs_step h with ⟨old, hold, hcarries⟩ | ⟨uri, text, rfl, rfl⟩
      · rw [hcarries.older.uri, hcarries.older.generation, requests_append]
        exact (ih old hold).append _
      · exact isRequest_made events uri text

/-- The number of a record belongs to the document of the record. -/
theorem isRequest_of_generation? (events : List (Event α)) {uri : Uri} {g : Nat}
    (h : (after events).generation? uri = some g) : IsRequest (requests events) uri g := by
  induction events using List.reverseRecOn with
  | nil => exact absurd h (by simp [after, run, initial, generation?, UriMap.get?])
  | append_singleton events e ih =>
      rw [after_snoc] at h
      rcases generation?_step_eq_some h with ⟨text, rfl, rfl⟩ | ⟨h, -⟩
      · exact isRequest_made events uri text
      · rw [requests_append]
        exact (ih h).append _

/-! ## Counting one document -/

theorem rank_succ_self {uri : Uri} {asked : List Uri} {k : Nat} (h : asked[k]? = some uri) :
    rank uri asked (k + 1) = rank uri asked k + 1 := by
  rw [rank, List.take_add_one, h, List.count_append]
  simp [rank]

theorem rank_succ_of_ne {uri other : Uri} {asked : List Uri} {k : Nat}
    (h : asked[k]? = some other) (hne : other ≠ uri) :
    rank uri asked (k + 1) = rank uri asked k := by
  rw [rank, List.take_add_one, h, List.count_append]
  simp [rank, hne]

theorem rank_le (uri : Uri) (asked : List Uri) {g g' : Nat} (h : g ≤ g') :
    rank uri asked g ≤ rank uri asked g' :=
  (List.take_prefix_take_left h).sublist.count_le uri

theorem rank_lt {uri : Uri} {asked : List Uri} {g g' : Nat} (h : IsRequest asked uri g')
    (hlt : g < g') : rank uri asked g < rank uri asked g' := by
  rcases h with ⟨k, rfl, hk⟩
  rw [rank_succ_self hk]
  exact Nat.lt_succ_of_le (rank_le uri asked (Nat.le_of_lt_succ hlt))

theorem IsRequest.rank_inj {uri : Uri} {asked : List Uri} {g g' : Nat}
    (h : IsRequest asked uri g) (h' : IsRequest asked uri g') :
    rank uri asked g = rank uri asked g' ↔ g = g' := by
  constructor
  · intro heq
    rcases Nat.lt_trichotomy g g' with hlt | hsame | hlt
    · exact absurd heq (Nat.ne_of_lt (rank_lt h' hlt))
    · exact hsame
    · exact absurd heq.symm (Nat.ne_of_lt (rank_lt h hlt))
  · intro heq
    rw [heq]

end Machine

end RiddlEditor
