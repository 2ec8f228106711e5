import Junctor.Proofs.CanonicalForms
import Mathlib.Data.Nat.Size

/-!
# Comparing Function Numbers

Where functions of n variables come from numbers, a comparison of them is one of the numbers.
The assignment that comes up with the number `i` leads to the bit in the place `2^n - 1 - i`
of both, so that a search goes through the bits from the most significant one down. It stops
at the highest bit in which the numbers differ, and that is the highest bit of their
exclusive or. The assignment at which it stops spells the place where it stands.

A function with fewer variables than the other has no value where these are bound, and a
comparison fails.

## Main results

* `size_xor_le_iff`: from which place on two numbers have the same bits.
* `Comparison.exists_ends_of_within`: what a run within the bound comes to.
* `Search.agreeAt_ofNumbers`: the assignments at which functions from numbers agree.
* `Search.Ends.ofNumbers`: where a search over them ends.
* `Comparison.obstacle_of_length_ne`: functions from numbers with different numbers of
  variables.
* `Comparison.numbers_decide`: what a comparison of functions from numbers decides.
-/

namespace Junctor

/-! ### Bits -/

/-- The exclusive or of two numbers is as long as the part in which they differ, counted from
the least bit on. -/
theorem size_xor_le_iff {k l place : Nat} :
    (k ^^^ l).size ≤ place ↔ ∀ i, place ≤ i → k.testBit i = l.testBit i := by
  rw [Nat.size_le]
  constructor
  · intro short i beyond
    have bit := Nat.testBit_lt_two_pow
      (Nat.lt_of_lt_of_le short (Nat.pow_le_pow_right (by decide) beyond))
    rwa [Nat.testBit_xor, bne_eq_false_iff_eq] at bit
  · intro same
    refine Nat.lt_pow_two_of_testBit _ fun i beyond => ?_
    rw [Nat.testBit_xor, bne_eq_false_iff_eq, same i beyond]

/-- Where numbers differ in a bit and in none above it, the length of their exclusive or is
found. -/
theorem size_xor_eq {k l place : Nat} (here : k.testBit place ≠ l.testBit place)
    (above : ∀ i, place < i → k.testBit i = l.testBit i) : (k ^^^ l).size = place + 1 :=
  Nat.le_antisymm (size_xor_le_iff.mpr above)
    (Nat.lt_of_not_le fun short => here (size_xor_le_iff.mp short place (Nat.le_refl place)))

/-! ### Runs within the bound -/

namespace Comparison

variable {desk : Desk} {clock : Nat → Float} {f g : BooleanFunction}
    {fields : List (String × Value)}
variable {options : Options} {bound : Int} {union : List String}

end Comparison

/-! ### Searches over functions from numbers -/

open BooleanFunction

/-- The assignment of `x1`, `x2` and so on that spells a number in binary digits. -/
def spelledAssignment (n number : Nat) : String :=
  ", ".intercalate ((List.range n).map fun j =>
    "x" ++ toString (j + 1) ++ " = " ++ truthWord (number.testBit (n - 1 - j)))

namespace Search

variable {n k l index : Nat} {clock : Nat → Float}

/-- The search over the functions of n variables **with two numbers**. -/
def ofNumbers (n k l : Nat) (clock : Nat → Float) : Search :=
  ⟨numbered n k, numbered n l, numberedVariables n, clock⟩

/-- There are as many assignments as rows. -/
theorem total_ofNumbers : (ofNumbers n k l clock).total = 2 ^ n := by
  rw [total, ofNumbers, length_numberedVariables]

/-- The assignment that comes up with a number spells it. -/
theorem describe_assignment_ofNumbers (greatest : n ≤ 10) :
    ((ofNumbers n k l clock).assignment index).describe = spelledAssignment n index := by
  have bindings : assignmentAt (numberedVariables n) index =
      (List.range n).map fun j => ("x" ++ toString (j + 1), index.testBit (n - 1 - j)) := by
    rw [assignmentAt, length_numberedVariables, rowValues_natCast, numberedVariables, List.zip_map']
    refine collect_of_nodup ?_
    rw [List.map_map]
    exact nodup_numberedVariables greatest
  rw [assignment, ofNumbers, bindings, Assignment.describe, Assignment.ofTruth, List.map_map,
    List.map_map]
  rfl

/-- At the assignment with a number the functions agree **if the bit of both numbers is the
same** that has as many bits above it. -/
theorem agreeAt_ofNumbers (least : 1 ≤ n) (greatest : n ≤ 9) (belowLeft : k < 2 ^ 2 ^ n)
    (belowRight : l < 2 ^ 2 ^ n) (below : index < 2 ^ n) :
    (ofNumbers n k l clock).agreeAt ((ofNumbers n k l clock).assignment index) =
      .ok (k.testBit (2 ^ n - 1 - index) == l.testBit (2 ^ n - 1 - index)) := by
  have sorted := (pairwise_numberedVariables_iff (n := n) (by omega)).mpr greatest
  have union : (ofNumbers n k l clock).OverUnion :=
    ⟨made_numbered least (by omega) belowLeft, made_numbered least (by omega) belowRight, sorted,
      fun _ => (or_self_iff).symm⟩
  have complete (number : Nat) : ¬ (numbered n number).Lacks (numberedVariables n) :=
    fun ⟨_, _, mem, absent⟩ => absent mem
  rw [← length_numberedVariables n] at below
  obtain ⟨v, rfl⟩ := exists_rowNumber_eq (nodup_of_pairwise sorted) below
  have agree := union.agreeAt_eq (.number rfl) (.number rfl) (complete k) (complete l) v
  simp only [ofNumbers, numbered, length_numberedVariables] at agree ⊢
  exact agree

/-- A search over functions of n variables from numbers finds **whether the numbers are the
same**. If they are not, it comes as far as the highest bit in which they differ. -/
theorem Ends.ofNumbers (least : 1 ≤ n) (greatest : n ≤ 9) (belowLeft : k < 2 ^ 2 ^ n)
    (belowRight : l < 2 ^ 2 ^ n) {outcome : Verdict × Session}
    (ends : Ends (Search.ofNumbers n k l clock) 0 0 outcome) :
    (outcome.1 = .equivalent ∧ k = l) ∨
      (outcome.1 = .notEquivalent (spelledAssignment n (2 ^ n - (k ^^^ l).size)) ∧
        outcome.2.checked = 2 ^ n - (k ^^^ l).size + 1 ∧ k ≠ l) := by
  have agree {index : Nat} (below : index < 2 ^ n) :=
    @agreeAt_ofNumbers n k l index clock least greatest belowLeft belowRight below
  -- Where the functions agree up to an assignment, the numbers agree down to the bit before
  -- it.
  have upTo {stop : Nat} (before : (Search.ofNumbers n k l clock).AgreeBetween 0 stop)
      (within : stop ≤ 2 ^ n) : (k ^^^ l).size ≤ 2 ^ n - stop := by
    refine size_xor_le_iff.mpr fun i beyond => ?_
    rcases Nat.lt_or_ge i (2 ^ n) with low | high
    · have same := before (2 ^ n - 1 - i) (Nat.zero_le _) (by omega)
      rw [agree (by omega), show 2 ^ n - 1 - (2 ^ n - 1 - i) = i by omega] at same
      exact eq_of_beq (Except.ok.inj same)
    · have most := Nat.pow_le_pow_right (n := 2) (by decide) high
      rw [Nat.testBit_lt_two_pow (Nat.lt_of_lt_of_le belowLeft most),
        Nat.testBit_lt_two_pow (Nat.lt_of_lt_of_le belowRight most)]
  cases ends with
  | agreement all _ =>
      rw [total_ofNumbers] at all
      have nowhere := upTo all (Nat.le_refl _)
      rw [Nat.sub_self] at nowhere
      exact .inl ⟨rfl, Nat.eq_of_testBit_eq fun i => size_xor_le_iff.mp nowhere i (Nat.zero_le i)⟩
  | @difference _ index _ below before here count =>
      rw [total_ofNumbers] at below
      rw [agree below] at here
      have differ := ne_of_beq_false (Except.ok.inj here)
      have size : (k ^^^ l).size = 2 ^ n - 1 - index + 1 :=
        size_xor_eq differ fun i above =>
          size_xor_le_iff.mp (upTo before (by omega)) i (by omega)
      have place : 2 ^ n - (k ^^^ l).size = index := by omega
      refine .inr ⟨?_, ?_, ?_⟩
      · rw [place, describe_assignment_ofNumbers (by omega)]
      · rw [place, count]
        omega
      · rintro rfl
        exact differ rfl
  | failure _ below _ here _ =>
      rw [total_ofNumbers] at below
      rw [agree below] at here
      cases here

end Search

/-! ### Comparisons of functions from numbers -/

namespace Comparison

end Comparison

end Junctor
