import Junctor.Assignment
import Junctor.Number.Bits

/-!
# The Order of the Rows

The rows of a truth table over n variables are numbered from 0 to 2^n - 1. Row i gives the
variables the binary digits of i, where the first variable has the most significant one.

## Main results

* `rowValues`: the values in a row; `rowIndex`: the number of a row.
* `rowIndex_truth`: the values of a row read as binary digits.
* `assignments`: all assignments of some variables in the order of the rows.
-/

namespace Junctor

/-- The **values in the row** with a number, taken modulo 2^n: its n binary digits, the most
significant one first. -/
def rowValues (index : Int) : Nat → List Bool
  | 0 => []
  | n + 1 => (index / 2 ^ n % 2 == 1) :: rowValues index n

/-- The **number of the row** with given values: each value is put into the last place after
the others have moved up. -/
def rowIndex (values : List Cell) : Int :=
  values.foldl (fun index value => Number.bitwiseOr (2 * index) value.toInt) 0

/-- A row has a value for every variable. -/
@[simp] theorem length_rowValues (index : Int) (n : Nat) : (rowValues index n).length = n := by
  induction n with
  | zero => rfl
  | succ n ih => simp [rowValues, ih]

/-- The values of a row **are its binary digits**: adding one at the end doubles the number. -/
theorem rowIndex_truth (values : List Bool) :
    rowIndex (values.map Cell.truth) = values.foldl (fun index b => 2 * index + b.toInt) 0 := by
  rw [rowIndex, List.foldl_map]
  congr 1
  funext index b
  exact Number.bitwiseOr_two_mul index b

/-- The assignment in a row, which binds each name to the value at its place. -/
def assignmentAt (names : List String) (index : Nat) : List (String × Bool) :=
  collect (names.zip (rowValues index names.length))

/-- **All assignments** of the variables, in the order of the rows, each of them once. -/
def assignments (names : List String) : List (List (String × Bool)) :=
  (List.range (2 ^ names.length)).map (assignmentAt names)

end Junctor
