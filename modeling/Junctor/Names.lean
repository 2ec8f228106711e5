/-!
# Sorted Sets of Names

The variables of a formula are listed in the order of their names by code point, each once.
Such a list is built by inserting names one after the other.

## Main results

* `insertName`: a name put into its place.
* `mem_insertName`: the members after an insertion.
* `sortedNames`: the sorted set of the names of a list; `mem_sortedNames`: it has the same
  members.
-/

namespace Junctor

/-- Put a name **into its place** in a sorted list, unless it is there already. -/
def insertName (name : String) : List String → List String
  | [] => [name]
  | first :: rest =>
    if name < first then name :: first :: rest
    else if name = first then first :: rest
    else first :: insertName name rest

/-- The **sorted set** of the names in a list: each of them once, by code points. -/
def sortedNames (names : List String) : List String := names.foldr insertName []

/-- The union of two sorted sets of names, which is a sorted set again. -/
def unionNames (left right : List String) : List String := left.foldr insertName right

/-- Inserting a name **adds it and nothing else**. -/
@[simp] theorem mem_insertName {x name : String} {names : List String} :
    x ∈ insertName name names ↔ x = name ∨ x ∈ names := by
  induction names with
  | nil => simp [insertName]
  | cons first rest ih =>
    unfold insertName
    split
    · simp
    · split
      · next same => simp [same]
      · simp only [List.mem_cons, ih]
        exact or_left_comm

/-- The union has the members of both sides. -/
@[simp] theorem mem_unionNames {x : String} {left right : List String} :
    x ∈ unionNames left right ↔ x ∈ left ∨ x ∈ right := by
  induction left with
  | nil => simp [unionNames]
  | cons name left ih =>
    rw [unionNames, List.foldr_cons, mem_insertName, ← unionNames, ih, List.mem_cons, or_assoc]

/-- The sorted set has the same members as the list from which it was made; only their order
and their repetitions are lost. -/
@[simp] theorem mem_sortedNames {x : String} {names : List String} :
    x ∈ sortedNames names ↔ x ∈ names := by
  have union : x ∈ unionNames names [] ↔ x ∈ names ∨ x ∈ [] := mem_unionNames
  simpa [unionNames, sortedNames] using union

end Junctor
