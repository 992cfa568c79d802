/-!
# Maps of documents

What is known about each of some documents. A document has one entry at most that a
look-up can find, and the newest one is found.

## Main definitions

* `Uri`: The name of a document.
* `UriMap`: An entry for each of some documents.
* `UriMap.get?`, `UriMap.set`, `UriMap.erase`: Looking up, replacing, forgetting.

## Theorems

* `UriMap.get?_set`, `UriMap.get?_erase`: What a look-up finds after a change.
-/

namespace RiddlEditor

/-- The name of a document. -/
abbrev Uri := String

/-- An entry for each of some documents. -/
abbrev UriMap (α : Type) := List (Uri × α)

namespace UriMap

variable {α : Type}

/-- The entry of a document, if it has one. -/
def get? (m : UriMap α) (uri : Uri) : Option α :=
  (m.find? fun entry => entry.1 == uri).map (·.2)

/-- The entries without that of a document. -/
def erase (m : UriMap α) (uri : Uri) : UriMap α :=
  m.filter fun entry => entry.1 != uri

/-- The entries with a new one for a document. -/
def set (m : UriMap α) (uri : Uri) (a : α) : UriMap α :=
  (uri, a) :: m.erase uri

theorem get?_erase_self (m : UriMap α) (uri : Uri) : (m.erase uri).get? uri = none := by
  simp only [get?, erase, Option.map_eq_none_iff, List.find?_eq_none, List.mem_filter]
  intro entry h hc
  simp_all

theorem get?_erase_of_ne (m : UriMap α) {uri other : Uri} (h : other ≠ uri) :
    (m.erase uri).get? other = m.get? other := by
  simp only [get?, erase, List.find?_filter]
  congr 2
  funext entry
  by_cases he : entry.1 = other
  · simp [he, h]
  · simp [he]

/-- Only the erased document is gone. -/
theorem get?_erase (m : UriMap α) (uri other : Uri) :
    (m.erase uri).get? other = if other = uri then none else m.get? other := by
  split
  · rename_i h
    rw [h, get?_erase_self]
  · rename_i h
    exact get?_erase_of_ne m h

/-- Only the document that was set has changed. -/
theorem get?_set (m : UriMap α) (uri other : Uri) (a : α) :
    (m.set uri a).get? other = if other = uri then some a else m.get? other := by
  by_cases h : other = uri
  · subst h
    simp [set, get?]
  · have hne : (uri == other) = false := by simpa using Ne.symm h
    rw [if_neg h, ← get?_erase_of_ne m h]
    simp only [set, get?, List.find?_cons, hne]

end UriMap

end RiddlEditor
