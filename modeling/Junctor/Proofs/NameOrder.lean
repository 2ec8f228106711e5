import Mathlib.Data.List.Sort
import Junctor.Names

/-!
# Sorted Sets of Names Are Sorted

Inserting a name keeps a list strictly sorted, so that the sorted sets of names are what they
are called. A strictly sorted list is determined by its members: the order in which names
came up leaves no trace in a sorted set.

## Main results

* `pairwise_insertName`, `pairwise_unionNames`, `pairwise_sortedNames`: the sets are strictly
  sorted.
* `sortedNames_eq_self_iff`: a sorted set is left as it is.
* `unionNames_sortedNames_eq`: the union of the names of two lists is the sorted list of their
  members.
-/

namespace Junctor

/-- Inserting a name keeps a list strictly sorted, as a name that is there already is not
inserted again. -/
theorem pairwise_insertName {name : String} {names : List String}
    (sorted : names.Pairwise (· < ·)) : (insertName name names).Pairwise (· < ·) := by
  induction names with
  | nil => exact List.pairwise_singleton _ _
  | cons first rest ih =>
      obtain ⟨least, tail⟩ := List.pairwise_cons.mp sorted
      unfold insertName
      split
      · next before =>
          refine List.pairwise_cons.mpr ⟨fun x mem => ?_, sorted⟩
          rcases List.mem_cons.mp mem with rfl | later
          · exact before
          · exact String.lt_trans before (least x later)
      · next notBefore =>
          split
          · exact sorted
          · next other =>
              have after : first < name :=
                String.not_le.mp fun le =>
                  other (String.le_antisymm le (String.not_lt.mp notBefore))
              refine List.pairwise_cons.mpr ⟨fun x mem => ?_, ih tail⟩
              rcases mem_insertName.mp mem with rfl | later
              · exact after
              · exact least x later

/-- The union with a strictly sorted list **is strictly sorted**. -/
theorem pairwise_unionNames (left : List String) {right : List String}
    (sorted : right.Pairwise (· < ·)) : (unionNames left right).Pairwise (· < ·) := by
  induction left with
  | nil => exact sorted
  | cons name left ih => exact pairwise_insertName ih

/-- The sorted set of names **is strictly sorted**. -/
theorem pairwise_sortedNames (names : List String) : (sortedNames names).Pairwise (· < ·) :=
  pairwise_unionNames names .nil

/-- A strictly sorted list has each name once. -/
theorem nodup_of_pairwise {names : List String} (sorted : names.Pairwise (· < ·)) : names.Nodup :=
  sorted.imp fun before => String.ne_of_lt before

/-- A list is its own sorted set exactly if it is strictly sorted already. -/
theorem sortedNames_eq_self_iff {names : List String} :
    sortedNames names = names ↔ names.Pairwise (· < ·) := by
  constructor
  · intro same
    exact same ▸ pairwise_sortedNames names
  · intro sorted
    exact (pairwise_sortedNames names).eq_of_mem_iff sorted fun _ => mem_sortedNames

/-- The union of the names of two lists is **the** strictly sorted list of their members:
there is no other with the same members. -/
theorem unionNames_sortedNames_eq {left right union : List String}
    (sorted : union.Pairwise (· < ·)) (members : ∀ x, x ∈ union ↔ x ∈ left ∨ x ∈ right) :
    unionNames (sortedNames left) (sortedNames right) = union := by
  refine (pairwise_unionNames _ (pairwise_sortedNames right)).eq_of_mem_iff sorted fun x => ?_
  rw [mem_unionNames, mem_sortedNames, mem_sortedNames, members]

end Junctor
