/-!
# Bits of Integers

The integers are taken as bit patterns without end, in which the bits of a negative number
are those of its complement inverted. `bitwiseOr` sets the bits that are set on either side.

## Main results

* `bitwiseOr`: the bits of both integers.
* `bitwiseOr_two_mul`: putting a bit into the last place of an even number adds it.
-/

namespace Junctor.Number

/-- The integer with the bits that are set **on either side**. -/
def bitwiseOr : Int → Int → Int
  | .ofNat m, .ofNat n => .ofNat (m ||| n)
  | .ofNat m, .negSucc n => .negSucc (n ^^^ (n &&& m))
  | .negSucc m, .ofNat n => .negSucc (m ^^^ (m &&& n))
  | .negSucc m, .negSucc n => .negSucc (m &&& n)

/-- Putting a bit into the last place of an even number adds it, for negative numbers as for
others. -/
theorem bitwiseOr_two_mul (a : Int) (b : Bool) :
    bitwiseOr (2 * a) b.toInt = 2 * a + b.toInt := by
  cases a with
  | ofNat n =>
    cases b with
    | false =>
      show bitwiseOr (Int.ofNat (2 * n)) (Int.ofNat 0) = _
      simp [bitwiseOr]
    | true =>
      show bitwiseOr (Int.ofNat (2 * n)) (Int.ofNat 1) = _
      have or : 2 * n ||| 1 = 2 * n + 1 :=
        (@Nat.two_pow_add_eq_or_of_lt 1 1 (by decide) n).symm
      simp only [bitwiseOr, or]
      rfl
  | negSucc n =>
    have even : (2 : Int) * .negSucc n = .negSucc (2 * n + 1) := by omega
    rw [even]
    cases b with
    | false =>
      show bitwiseOr (.negSucc (2 * n + 1)) (Int.ofNat 0) = _
      simp [bitwiseOr]
    | true =>
      show bitwiseOr (.negSucc (2 * n + 1)) (Int.ofNat 1) = _
      have odd : (2 * n + 1) &&& 1 = 1 := by rw [Nat.and_one_is_mod]; omega
      have clear : (2 * n + 1) ^^^ 1 = 2 * n := by
        apply Nat.eq_of_testBit_eq
        intro i
        cases i with
        | zero =>
          have up : (2 * n + 1) % 2 = 1 := by omega
          have down : 2 * n % 2 = 0 := by omega
          rw [Nat.testBit_xor, Nat.testBit_zero, Nat.testBit_zero, Nat.testBit_zero, up, down]
          rfl
        | succ i =>
          have half : (2 * n + 1) / 2 = n := by omega
          simp [Nat.testBit_succ, Nat.xor_div_two, half]
      simp only [bitwiseOr, odd, clear]
      show _ = Int.negSucc (2 * n + 1) + 1
      omega

end Junctor.Number
