import Mathlib.Data.Nat.Init
import Junctor.Number.Decimal

/-!
# Digits

Numbers are written with a set number of digits by filling up what a base conversion gives
with zeros from the left. A number that is not too large has then exactly as many digits as
were asked for, each of them found by itself, and it is read back from them. Digits are split
off at the end: the others are those of the quotient.

## Main results

* `Number.filledDigits_succ`: the last digit is split off.
* `Number.ofDigitChars_filledDigits`: the value of the digits.
* `Number.padded_eq_ofList`: a number that is filled up is written with its last decimal
  digits.
* `Number.lastDigits_inj`: the last digits determine a number that has no others.
* `Number.append_cons_lastDigits_inj`: they are told from what stands in front of them.
-/

namespace Junctor.Number

/-! ### Filling up -/

/-- The digits of a base conversion, filled up with zeros from the left. -/
def filledDigits (base width n : Nat) : List Char :=
  List.replicate (width - (Nat.toDigits base n).length) '0' ++ Nat.toDigits base n

/-- The last digit of a base conversion **is split off**, if it is not the only one. -/
theorem filledDigits_succ {base width : Nat} (large : 1 < base) (positive : 0 < width) (n : Nat) :
    filledDigits base (width + 1) n =
      filledDigits base width (n / base) ++ [(n % base).digitChar] := by
  rw [filledDigits, filledDigits]
  rcases Nat.lt_or_ge n base with single | more
  · obtain ⟨width, rfl⟩ := Nat.exists_eq_add_of_lt positive
    rw [Nat.toDigits_of_lt_base single, Nat.div_eq_of_lt single, Nat.mod_eq_of_lt single,
      Nat.toDigits_zero]
    simp [List.replicate_succ']
  · rw [Nat.toDigits_of_base_le large more, List.length_append, List.length_singleton,
      Nat.add_sub_add_right, List.append_assoc]

/-- The digits of a base conversion, filled up with zeros in front, have the value of the
number. -/
theorem ofDigitChars_filledDigits {base : Nat} (large : 1 < base) (small : base ≤ 10)
    (width n : Nat) :
    Nat.ofDigitChars base (filledDigits base width n) 0 = n := by
  have zeros (count : Nat) : Nat.ofDigitChars base (List.replicate count '0') 0 = 0 := by
    induction count with
    | zero => rfl
    | succ count ih => simpa [List.replicate_succ, Nat.ofDigitChars] using ih
  rw [filledDigits, Nat.ofDigitChars_append, zeros, Nat.ofDigitChars_toDigits large small]

/-- The digits of a number determine it. -/
theorem toDigits_inj {m n : Nat} : Nat.toDigits 10 m = Nat.toDigits 10 n ↔ m = n := by
  refine ⟨fun same => ?_, congrArg _⟩
  have values := congrArg (Nat.ofDigitChars 10 · 0) same
  rwa [Nat.ofDigitChars_ten_toDigits, Nat.ofDigitChars_ten_toDigits] at values

/-! ### The last digits -/

/-- The last decimal digits of a number, as many as are asked for. -/
def lastDigits : Nat → Nat → List Char
  | 0, _ => []
  | width + 1, n => lastDigits width (n / 10) ++ [(n % 10).digitChar]

/-- There are as many last digits as are asked for. -/
theorem length_lastDigits (width n : Nat) : (lastDigits width n).length = width := by
  induction width generalizing n with
  | zero => rfl
  | succ width ih => rw [lastDigits, List.length_append, ih, List.length_singleton]

/-- The last digits are digits. -/
theorem isDigit_of_mem_lastDigits {width n : Nat} {c : Char} (found : c ∈ lastDigits width n) :
    c.isDigit = true := by
  induction width generalizing n with
  | zero => cases found
  | succ width ih =>
      rw [lastDigits, List.mem_append] at found
      rcases found with others | last
      · exact ih others
      · rw [← Nat.toDigits_of_lt_base (Nat.mod_lt n (by omega : 0 < 10))] at last
        exact Nat.isDigit_of_mem_toDigits (by omega) (by omega) last

/-- The last digits are those of a quotient and then those of the number. -/
theorem lastDigits_add (width more n : Nat) :
    lastDigits (width + more) n = lastDigits width (n / 10 ^ more) ++ lastDigits more n := by
  induction more generalizing n with
  | zero => rw [Nat.pow_zero, Nat.div_one, lastDigits, List.append_nil, Nat.add_zero]
  | succ more ih =>
      rw [← Nat.add_assoc, lastDigits, ih, lastDigits, Nat.div_div_eq_div_mul, ← Nat.pow_succ',
        List.append_assoc]

/-- The last digits are those filled up, of a number that has no others. -/
theorem filledDigits_eq_lastDigits {width n : Nat} (positive : 0 < width) (below : n < 10 ^ width) :
    filledDigits 10 width n = lastDigits width n := by
  induction width, positive using Nat.le_induction generalizing n with
  | base =>
      have single : n < 10 := below
      rw [filledDigits, Nat.toDigits_of_lt_base single, lastDigits, Nat.mod_eq_of_lt single]
      rfl
  | succ width positive ih =>
      have quotient : n / 10 < 10 ^ width := Nat.div_lt_of_lt_mul (Nat.pow_succ' ▸ below)
      rw [filledDigits_succ (by omega) positive, ih quotient, lastDigits]

/-- A number that is filled up is written with **its last digits**, if it has no others. -/
theorem padded_eq_ofList {width n : Nat} (positive : 0 < width) (below : n < 10 ^ width) :
    padded width n = String.ofList (lastDigits width n) := by
  rw [← filledDigits_eq_lastDigits positive below, padded, ← String.length_toList,
    Nat.toString_eq_ofList_toDigits, String.toList_ofList, filledDigits, String.ofList_append]

/-- The last digits determine a number that has no more digits than these. -/
theorem lastDigits_inj {width m n : Nat} (positive : 0 < width) (belowLeft : m < 10 ^ width)
    (belowRight : n < 10 ^ width) : lastDigits width m = lastDigits width n ↔ m = n := by
  refine ⟨fun same => ?_, congrArg _⟩
  rw [← filledDigits_eq_lastDigits positive belowLeft,
    ← filledDigits_eq_lastDigits positive belowRight] at same
  have values := congrArg (Nat.ofDigitChars 10 · 0) same
  rwa [ofDigitChars_filledDigits (by omega) (by omega),
    ofDigitChars_filledDigits (by omega) (by omega)] at values

/-- What stands in front of a number's last digits and a mark **is read back** along with the
number, if it has no others. -/
theorem append_cons_lastDigits_inj {width m n : Nat} {mark : Char} {front front' : List Char}
    (positive : 0 < width) (belowLeft : m < 10 ^ width) (belowRight : n < 10 ^ width) :
    front ++ mark :: lastDigits width m = front' ++ mark :: lastDigits width n ↔
      front = front' ∧ m = n := by
  constructor
  · intro same
    have ⟨fronts, back⟩ := List.append_inj' same (by
      rw [List.length_cons, List.length_cons, length_lastDigits, length_lastDigits])
    exact ⟨fronts, (lastDigits_inj positive belowLeft belowRight).mp (List.cons.inj back).2⟩
  · rintro ⟨rfl, rfl⟩
    rfl

end Junctor.Number
