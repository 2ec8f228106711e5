import Mathlib.Logic.ExistsUnique
import Junctor.Proofs.FunctionValues

/-!
# The Rows Enumerate the Assignments

The values in a row are taken out of its number digit by digit, each from its own place, and
the number is put together again by moving up what there is and adding a digit. Both ways
undo each other. Numbers that differ by a multiple of the number of rows have the same row,
also if they are negative.

Rows with smaller numbers come first in the lexicographic order of their values. So the
assignments to names that differ are gone through in this order, and each of them comes up
once.

## Main results

* `rowIndex_rowValues`, `rowValues_rowIndex`: the two ways undo each other.
* `rowValues_lt_rowValues`: the rows are in lexicographic order.
* `getElem?_assignments_eq_some_iff`, `mem_assignments_iff`, `pairwise_assignments`: the
  enumeration.
* `rows_enumerate_assignments`: all of this in one statement.
-/

namespace Junctor

/-! ### Numbers and values -/

/-- Reading the values in a row gives its number back, modulo the number of rows, so that
negative numbers count from the end. -/
theorem rowIndex_rowValues (index : Int) (n : Nat) :
    rowIndex ((rowValues index n).map .truth) = index % 2 ^ n := by
  rw [rowIndex_eq_rowNumber, rowNumber_rowValues]

/-- The row with the number that some values are read as has these values: **no two rows are
read as one number**. -/
theorem rowValues_rowIndex (values : List Bool) :
    rowValues (rowIndex (values.map .truth)) values.length = values := by
  rw [rowIndex_eq_rowNumber, rowValues_rowNumber]

/-- Values are read as the number of a row. -/
theorem rowIndex_bounds (values : List Bool) :
    0 ≤ rowIndex (values.map .truth) ∧ rowIndex (values.map .truth) < 2 ^ values.length := by
  rw [rowIndex_eq_rowNumber]
  exact ⟨Int.natCast_nonneg _, by exact_mod_cast rowNumber_lt values⟩

/-- Rows come in the **lexicographic order** of their values, where false comes before true
and the first variable counts most. -/
theorem rowValues_lt_rowValues {i j n : Nat} (less : i < j) (below : j < 2 ^ n) :
    rowValues i n < rowValues j n := by
  rw [lt_iff_rowNumber_lt (by rw [length_rowValues, length_rowValues]),
    rowNumber_rowValues_of_lt (Nat.lt_trans less below), rowNumber_rowValues_of_lt below]
  exact less

/-! ### Assignments -/

variable {names : List String}

/-- Over names that differ the assignment in a row binds them in their order. -/
theorem map_fst_assignmentAt (distinct : names.Nodup) (index : Nat) :
    (assignmentAt names index).map Prod.fst = names := by
  rw [assignmentAt_eq_zip distinct,
    List.map_fst_zip (Nat.le_of_eq (length_rowValues index names.length).symm)]

/-- Over names that differ the assignment in a row has its values. -/
theorem map_snd_assignmentAt (distinct : names.Nodup) (index : Nat) :
    (assignmentAt names index).map Prod.snd = rowValues index names.length := by
  rw [assignmentAt_eq_zip distinct,
    List.map_snd_zip (Nat.le_of_eq (length_rowValues index names.length))]

/-- In its place in the enumeration stands the assignment in a row, and nothing stands beyond
the last one. -/
theorem getElem?_assignments_eq_some_iff {index : Nat} {bindings : List (String × Bool)} :
    (assignments names)[index]? = some bindings ↔
      index < 2 ^ names.length ∧ assignmentAt names index = bindings := by
  rw [assignments, List.getElem?_map, Option.map_eq_some_iff]
  constructor
  · rintro ⟨i, found, rfl⟩
    obtain ⟨below, rfl⟩ := List.getElem?_eq_some_iff.mp found
    rw [List.length_range] at below
    rw [List.getElem_range]
    exact ⟨below, rfl⟩
  · rintro ⟨below, rfl⟩
    exact ⟨index, List.getElem?_range below, rfl⟩

/-- Over names that differ, **everything that binds them** in their order is enumerated, and
nothing else. -/
theorem mem_assignments_iff (distinct : names.Nodup) {bindings : List (String × Bool)} :
    bindings ∈ assignments names ↔ bindings.map Prod.fst = names := by
  rw [List.mem_iff_getElem?]
  simp only [getElem?_assignments_eq_some_iff]
  constructor
  · rintro ⟨index, -, rfl⟩
    exact map_fst_assignmentAt distinct index
  · intro bound
    have long : (bindings.map Prod.snd).length = names.length := by
      rw [← bound, List.length_map, List.length_map]
    refine ⟨rowNumber (bindings.map Prod.snd), long ▸ rowNumber_lt _, ?_⟩
    rw [assignmentAt_eq_zip distinct, ← long, rowValues_rowNumber, ← bound]
    exact (List.zip_of_prod rfl rfl).symm

/-- Over names that differ, every valuation comes up in one place of the enumeration. -/
theorem existsUnique_assignments (distinct : names.Nodup) (v : String → Bool) :
    ∃! index : Nat, ∃ bindings : List (String × Bool),
      (assignments names)[index]? = some bindings ∧
        ∀ x ∈ names, bindings.lookup x = some (v x) := by
  refine ⟨rowNumber (names.map v), ⟨names.map fun x => (x, v x), ?_, fun x mem => ?_⟩, ?_⟩
  · have below := rowNumber_lt (names.map v)
    rw [List.length_map] at below
    exact getElem?_assignments_eq_some_iff.mpr ⟨below, assignmentAt_rowNumber distinct v⟩
  · rw [lookup_map_pair, if_pos mem]
  · rintro index ⟨bindings, found, values⟩
    obtain ⟨below, rfl⟩ := getElem?_assignments_eq_some_iff.mp found
    obtain ⟨w, rfl⟩ := exists_rowNumber_eq distinct below
    refine congrArg rowNumber (List.map_congr_left fun x mem => ?_)
    have value := values x mem
    rw [assignmentAt_rowNumber distinct, lookup_map_pair, if_pos mem] at value
    exact Option.some.inj value

/-- Over names that differ, the enumeration goes **up in the lexicographic order** of the
values. -/
theorem pairwise_assignments (distinct : names.Nodup) :
    (assignments names).Pairwise fun first second =>
      first.map Prod.snd < second.map Prod.snd := by
  rw [assignments, List.pairwise_map]
  refine List.pairwise_lt_range.imp_of_mem fun {i j} _ mem less => ?_
  rw [map_snd_assignmentAt distinct, map_snd_assignmentAt distinct]
  exact rowValues_lt_rowValues less (List.mem_range.mp mem)

/-- Rows and their numbers **determine each other**, and the rows with increasing numbers are
in the lexicographic order of their values. Over names that differ, everything that binds the
names in their order is therefore enumerated, each valuation in one place, in this order, and
the values in each place are read as its number. -/
theorem rows_enumerate_assignments :
    (∀ (index : Int) (n : Nat), rowIndex ((rowValues index n).map .truth) = index % 2 ^ n) ∧
    (∀ values : List Bool, rowValues (rowIndex (values.map .truth)) values.length = values ∧
      0 ≤ rowIndex (values.map .truth) ∧ rowIndex (values.map .truth) < 2 ^ values.length) ∧
    (∀ n i j : Nat, i < j → j < 2 ^ n → rowValues i n < rowValues j n) ∧
    ∀ names : List String, names.Nodup →
      (∀ bindings, bindings ∈ assignments names ↔ bindings.map Prod.fst = names) ∧
      (∀ v : String → Bool, ∃! index : Nat, ∃ bindings : List (String × Bool),
        (assignments names)[index]? = some bindings ∧
          ∀ x ∈ names, bindings.lookup x = some (v x)) ∧
      ((assignments names).Pairwise fun first second =>
        first.map Prod.snd < second.map Prod.snd) ∧
      ∀ (index : Nat) bindings, (assignments names)[index]? = some bindings →
        rowIndex (bindings.map fun pair => .truth pair.2) = index := by
  refine ⟨rowIndex_rowValues, fun values => ⟨rowValues_rowIndex values, rowIndex_bounds values⟩,
    fun n i j less below => rowValues_lt_rowValues less below, fun names distinct => ?_⟩
  refine ⟨fun bindings => mem_assignments_iff distinct, existsUnique_assignments distinct,
    pairwise_assignments distinct, fun index bindings found => ?_⟩
  obtain ⟨below, rfl⟩ := getElem?_assignments_eq_some_iff.mp found
  have values : ((assignmentAt names index).map fun pair => Cell.truth pair.2) =
      (rowValues index names.length).map .truth := by
    rw [← map_snd_assignmentAt distinct, List.map_map]
    rfl
  rw [values, rowIndex_rowValues_of_lt below]

/-- The names `b` and `a` have four assignments in this order, and the row -3 is the second. -/
theorem rows_enumerate_assignments_pair :
    ["b", "a"].Nodup ∧
      rowIndex ((rowValues (-3) 2).map .truth) = 1 ∧
      assignments ["b", "a"] = [[("b", false), ("a", false)], [("b", false), ("a", true)],
        [("b", true), ("a", false)], [("b", true), ("a", true)]] ∧
      ([("b", true), ("a", false)] ∈ assignments ["b", "a"] ↔
        [("b", true), ("a", false)].map Prod.fst = ["b", "a"]) ∧
      rowIndex ([("b", true), ("a", false)].map fun pair => .truth pair.2) = 2 := by
  have distinct : ["b", "a"].Nodup := by decide
  obtain ⟨numbers, -, -, enumerated⟩ := rows_enumerate_assignments
  obtain ⟨members, -, -, places⟩ := enumerated ["b", "a"] distinct
  exact ⟨distinct, numbers (-3) 2, by decide, members _, places 2 _ rfl⟩

end Junctor
