/-!
# Ranges of Code Points

A character property is given as a list of code point ranges in increasing order, both ends
included. `inRanges` looks a code point up and stops at the first range that lies above it, so
that the characters of plain text are found after a few comparisons.

## Main results

* `exists_range_of_inRanges`: a code point that is found lies in one of the ranges.
* `inRanges_cons`: the unfolding of the search at one range.
-/

namespace Junctor.Text

/-- Membership in a **sorted range list**: the search ends at the first range above `n`. -/
def inRanges : List (Nat × Nat) → Nat → Bool
  | [], _ => false
  | (first, last) :: rest, n => if n < first then false else n ≤ last || inRanges rest n

/-- One step of the search. -/
theorem inRanges_cons (first last : Nat) (rest : List (Nat × Nat)) (n : Nat) :
    inRanges ((first, last) :: rest) n =
      if n < first then false else n ≤ last || inRanges rest n := rfl

/-- A code point that is found **lies in a range** of the list. -/
theorem exists_range_of_inRanges {ranges : List (Nat × Nat)} {n : Nat}
    (found : inRanges ranges n = true) : ∃ r ∈ ranges, r.1 ≤ n ∧ n ≤ r.2 := by
  induction ranges with
  | nil => cases found
  | cons r rest ih =>
    obtain ⟨first, last⟩ := r
    rw [inRanges_cons] at found
    split at found
    · simp at found
    · next above =>
      simp only [Bool.or_eq_true, decide_eq_true_eq] at found
      cases found with
      | inl below => exact ⟨(first, last), by simp, by omega, below⟩
      | inr later =>
        obtain ⟨r, mem, bounds⟩ := ih later
        exact ⟨r, by simp [mem], bounds⟩

end Junctor.Text
