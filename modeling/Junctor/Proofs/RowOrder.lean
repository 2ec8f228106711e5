import Junctor.TruthTable.Index

/-!
# The Order of the Rows Is Lexicographic

A list of truth values is read as a binary number, the first value being the most significant
digit. The number of a row and the values in it determine each other, and a row with a
smaller number comes first in the lexicographic order of the values, false coming before
true. Over names that differ, the rows are therefore all assignments of the names, each of
them once.

## Main results

* `rowNumber_lt`, `rowValues_rowNumber`, `rowNumber_rowValues`: numbers and values determine
  each other.
* `rowNumber_map_le`: the order of the numbers extends the pointwise order of the values.
* `lt_iff_rowNumber_lt`: the order of the numbers is the lexicographic order of the values.
* `assignmentAt_rowNumber`, `exists_rowNumber_eq`: the rows are the assignments.
-/

namespace Junctor

/-! ### Numbers and values -/

/-- The number of the row with given values, the first of which has the greatest weight. -/
def rowNumber : List Bool → Nat
  | [] => 0
  | b :: values => b.toNat * 2 ^ values.length + rowNumber values

/-- The number of a row is below the number of rows, which is a power of two. -/
theorem rowNumber_lt (values : List Bool) : rowNumber values < 2 ^ values.length := by
  induction values with
  | nil => decide
  | cons b values ih =>
      rw [rowNumber, List.length_cons, Nat.pow_succ]
      cases b with
      | false => simp only [Bool.toNat_false]; omega
      | true => simp only [Bool.toNat_true]; omega

/-- The number of a row is what reading its digits gives. -/
theorem rowIndex_eq_rowNumber (values : List Bool) :
    rowIndex (values.map Cell.truth) = rowNumber values := by
  have shift (start : Int) : values.foldl (fun index b => 2 * index + b.toInt) start =
      start * 2 ^ values.length + rowNumber values := by
    induction values generalizing start with
    | nil => simp [rowNumber]
    | cons b values ih =>
        rw [List.foldl_cons, ih, rowNumber, List.length_cons, Int.pow_succ]
        have digit : b.toInt = (b.toNat : Int) := by cases b <;> rfl
        rw [digit]
        push_cast
        rw [Int.add_mul, Int.mul_comm 2 start, Int.mul_assoc start 2, Int.mul_comm 2, Int.add_assoc]
  rw [rowIndex_truth, shift, Int.zero_mul, Int.zero_add]

/-- The row of a valuation is what reading its values gives. -/
theorem rowIndex_map_truth (names : List String) (v : String → Bool) :
    rowIndex (names.map fun x => .truth (v x)) = rowNumber (names.map v) := by
  rw [← rowIndex_eq_rowNumber, List.map_map]
  rfl

/-- The values of a row depend on its number modulo the number of rows. -/
theorem rowValues_add_mul (index k : Int) (n : Nat) :
    rowValues (index + k * 2 ^ n) n = rowValues index n := by
  induction n generalizing k with
  | zero => rfl
  | succ n ih =>
      have shift : k * (2 : Int) ^ (n + 1) = k * 2 * 2 ^ n := by
        rw [Int.pow_succ, Int.mul_comm (2 ^ n) 2, Int.mul_assoc]
      have pos : (2 : Int) ^ n ≠ 0 := Int.pow_ne_zero (by decide)
      have digit : (index + k * 2 * 2 ^ n) / 2 ^ n % 2 = index / 2 ^ n % 2 := by
        rw [Int.add_mul_ediv_right _ _ pos]
        omega
      rw [shift, rowValues, rowValues, digit, ih]

/-- The row with the number of some values has these values, so that numbers and rows
**determine each other**. -/
theorem rowValues_rowNumber (values : List Bool) :
    rowValues (rowNumber values) values.length = values := by
  induction values with
  | nil => rfl
  | cons b values ih =>
      have pos : (2 : Int) ^ values.length ≠ 0 := Int.pow_ne_zero (by decide)
      have number : ((rowNumber (b :: values) : Nat) : Int) =
          rowNumber values + b.toNat * 2 ^ values.length := by
        rw [rowNumber, Int.natCast_add, Int.natCast_mul, Int.natCast_pow, Int.add_comm]
        rfl
      have small : (rowNumber values : Int) / 2 ^ values.length = 0 := by
        refine Int.ediv_eq_zero_of_lt (Int.natCast_nonneg _) ?_
        exact_mod_cast rowNumber_lt values
      rw [number, List.length_cons, rowValues, rowValues_add_mul, ih,
        Int.add_mul_ediv_right _ _ pos, small]
      cases b <;> rfl

/-- The values in the row of a valuation are its values. -/
theorem rowValues_rowNumber_map (names : List String) (v : String → Bool) :
    rowValues (rowNumber (names.map v)) names.length = names.map v := by
  have values := rowValues_rowNumber (names.map v)
  rwa [List.length_map] at values

/-- The row of a valuation comes **before the rows of all others** in which at least as much
is true. -/
theorem rowNumber_map_le {names : List String} {v w : String → Bool}
    (more : ∀ x ∈ names, v x = true → w x = true) :
    rowNumber (names.map v) ≤ rowNumber (names.map w) := by
  induction names with
  | nil => exact Nat.le_refl _
  | cons name names ih =>
      obtain ⟨here, others⟩ := List.forall_mem_cons.mp more
      have first : (v name).toNat ≤ (w name).toNat := by
        cases holds : v name with
        | false => exact Nat.zero_le _
        | true => exact Nat.le_of_eq (congrArg Bool.toNat (here holds).symm)
      simp only [List.map_cons, rowNumber, List.length_map]
      exact Nat.add_le_add (Nat.mul_le_mul_right _ first) (ih others)

/-- The number of the values in a row **is the number of the row**, taken modulo the number of
rows. -/
theorem rowNumber_rowValues (index : Int) (n : Nat) :
    (rowNumber (rowValues index n) : Int) = index % 2 ^ n := by
  induction n with
  | zero => rw [rowValues, rowNumber]; omega
  | succ n ih =>
      have pos : (0 : Int) < 2 ^ n := Int.pow_pos (by decide)
      have digit : ((index / 2 ^ n % 2 == 1).toNat : Int) = index / 2 ^ n % 2 := by
        rcases Int.emod_two_eq (index / 2 ^ n) with even | odd
        · rw [even]; rfl
        · rw [odd]; rfl
      have below := Int.emod_lt_of_pos index pos
      have least := Int.emod_nonneg index (Int.ne_of_gt pos)
      have whole := Int.mul_ediv_add_emod index (2 ^ n)
      have half := Int.mul_ediv_add_emod (index / 2 ^ n) 2
      have split : index = index / 2 ^ n % 2 * 2 ^ n + index % 2 ^ n +
          2 ^ (n + 1) * (index / 2 ^ n / 2) := by
        calc index = 2 ^ n * (2 * (index / 2 ^ n / 2) + index / 2 ^ n % 2) + index % 2 ^ n := by
              rw [half, whole]
          _ = _ := by
              rw [Int.pow_succ, Int.mul_add, Int.mul_assoc, Int.mul_comm (2 ^ n) (_ % 2)]
              omega
      have small : index / 2 ^ n % 2 * 2 ^ n + index % 2 ^ n < 2 ^ (n + 1) := by
        rw [Int.pow_succ]
        rcases Int.emod_two_eq (index / 2 ^ n) with even | odd
        · rw [even]; omega
        · rw [odd]; omega
      have nonneg : 0 ≤ index / 2 ^ n % 2 * 2 ^ n + index % 2 ^ n := by
        rcases Int.emod_two_eq (index / 2 ^ n) with even | odd
        · rw [even]; omega
        · rw [odd]; omega
      have number : (rowNumber (rowValues index (n + 1)) : Int) =
          index / 2 ^ n % 2 * 2 ^ n + index % 2 ^ n := by
        rw [rowValues, rowNumber, length_rowValues, Int.natCast_add, ih, Int.natCast_mul, digit,
          Int.natCast_pow]
        rfl
      rw [number]
      conv => rhs; rw [split, Int.add_mul_emod_self_left]
      exact (Int.emod_eq_of_lt nonneg small).symm

/-- The values in a row have its number if this is below the number of rows. -/
theorem rowNumber_rowValues_of_lt {index n : Nat} (below : index < 2 ^ n) :
    rowNumber (rowValues index n) = index := by
  have number := rowNumber_rowValues index n
  rw [Int.emod_eq_of_lt (Int.natCast_nonneg _) (by exact_mod_cast below)] at number
  exact_mod_cast number

/-- The values in a row are read as its number, if this is below the number of rows. -/
theorem rowIndex_rowValues_of_lt {index n : Nat} (below : index < 2 ^ n) :
    rowIndex ((rowValues index n).map Cell.truth) = index := by
  rw [rowIndex_eq_rowNumber, rowNumber_rowValues_of_lt below]

/-- Of two truth values false comes first. -/
theorem lt_iff_false_true {b c : Bool} : b < c ↔ b = false ∧ c = true := by
  cases b <;> cases c <;> decide

/-- The order of the numbers is the **lexicographic order** of the values, by induction on
the position from the left. -/
theorem lt_iff_rowNumber_lt {v w : List Bool} (same : v.length = w.length) :
    v < w ↔ rowNumber v < rowNumber w := by
  induction v generalizing w with
  | nil =>
      obtain rfl := List.length_eq_zero_iff.mp same.symm
      exact iff_of_false (List.not_lt_nil []) (Nat.lt_irrefl 0)
  | cons b v ih =>
      match w, same with
      | c :: w, same =>
          have same : v.length = w.length := Nat.succ.inj same
          have boundLeft := rowNumber_lt v
          have boundRight := rowNumber_lt w
          rw [same] at boundLeft
          rw [List.cons_lt_cons_iff, ih same, rowNumber, rowNumber, same, lt_iff_false_true]
          cases b with
          | false =>
              cases c with
              | false => simp
              | true =>
                  refine iff_of_true (.inl ⟨rfl, rfl⟩) ?_
                  rw [Bool.toNat_false, Bool.toNat_true]
                  omega
          | true =>
              cases c with
              | false => simp; omega
              | true => simp

/-! ### Assignments -/

/-- Any values of names that differ come from a valuation. -/
theorem exists_map_eq {α : Type} {names : List String} (distinct : names.Nodup) {values : List α}
    (long : values.length = names.length) (other : α) :
    ∃ v : String → α, names.map v = values := by
  induction names generalizing values with
  | nil => exact ⟨fun _ => other, (List.length_eq_zero_iff.mp long).symm⟩
  | cons name names ih =>
      match values, long with
      | value :: values, long =>
          obtain ⟨absent, distinct⟩ := List.nodup_cons.mp distinct
          obtain ⟨v, same⟩ := ih distinct (Nat.succ.inj long)
          refine ⟨fun x => if x = name then value else v x, ?_⟩
          rw [List.map_cons, if_pos rfl, ← same]
          refine congrArg _ (List.map_congr_left fun x mem => if_neg ?_)
          rintro rfl
          exact absent mem

/-- A name that is not bound is bound behind all others. -/
theorem bindName_of_not_mem {α : Type} {name : String} {bindings : List (String × α)}
    (absent : name ∉ bindings.map Prod.fst) (value : α) :
    bindName name value bindings = bindings ++ [(name, value)] := by
  induction bindings with
  | nil => rfl
  | cons pair rest ih =>
      obtain ⟨first, old⟩ := pair
      rw [List.map_cons, List.mem_cons, not_or] at absent
      rw [bindName, if_neg fun same => absent.1 same.symm, ih absent.2, List.cons_append]

/-- Pairs with names that differ are bound behind all others. -/
theorem foldl_bindName_of_nodup {α : Type} {bindings pairs : List (String × α)}
    (distinct : ((bindings ++ pairs).map Prod.fst).Nodup) :
    pairs.foldl (fun bindings pair => bindName pair.1 pair.2 bindings) bindings =
      bindings ++ pairs := by
  induction pairs generalizing bindings with
  | nil => rw [List.foldl_nil, List.append_nil]
  | cons pair pairs ih =>
      have split : bindings ++ pair :: pairs = (bindings ++ [pair]) ++ pairs := by
        rw [List.append_assoc, List.singleton_append]
      have absent : pair.1 ∉ bindings.map Prod.fst := by
        rw [List.map_append, List.map_cons, List.nodup_append] at distinct
        intro mem
        exact distinct.2.2 _ mem _ (List.mem_cons_self ..) rfl
      rw [List.foldl_cons, bindName_of_not_mem absent, split]
      exact ih (split ▸ distinct)

/-- Pairs with names that differ are the bindings of their list. -/
theorem collect_of_nodup {α : Type} {pairs : List (String × α)}
    (distinct : (pairs.map Prod.fst).Nodup) : collect pairs = pairs :=
  @foldl_bindName_of_nodup α [] pairs distinct

/-- Over names that differ a row has its values beside the names. -/
theorem assignmentAt_eq_zip {names : List String} (distinct : names.Nodup) (index : Nat) :
    assignmentAt names index = names.zip (rowValues index names.length) := by
  refine collect_of_nodup ?_
  rwa [List.map_fst_zip (Nat.le_of_eq (length_rowValues index names.length).symm)]

/-- The row with the number of a valuation is the assignment of its values to the names. -/
theorem assignmentAt_rowNumber {names : List String} (distinct : names.Nodup)
    (v : String → Bool) :
    assignmentAt names (rowNumber (names.map v)) = names.map fun x => (x, v x) := by
  rw [assignmentAt_eq_zip distinct, rowValues_rowNumber_map, ← List.map_prod_left_eq_zip]

/-- Every row is the row of some valuation, provided that the names differ. -/
theorem exists_rowNumber_eq {names : List String} (distinct : names.Nodup) {index : Nat}
    (below : index < 2 ^ names.length) :
    ∃ v : String → Bool, rowNumber (names.map v) = index := by
  obtain ⟨v, same⟩ := exists_map_eq distinct (length_rowValues index names.length) false
  exact ⟨v, same ▸ rowNumber_rowValues_of_lt below⟩

end Junctor
