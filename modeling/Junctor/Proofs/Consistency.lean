import Junctor.Proofs.Equivalence

/-!
# Verdicts Are Consistent

The two functions of a comparison may be exchanged: the verdict is the same in every detail,
the failures included, and so are the statistics. The functions are evaluated one after the
other, and the first that has no value ends the search; but the only thing that can go wrong
is that no row of a truth table matches the assignment, and this says nothing of the
function.

Verdicts of equivalence go together. The three comparisons of three functions go through the
assignments of three different sets of variables, in different orders; but where a comparison
finds two functions equivalent they mean the same, and meanings know nothing of these sets.

## Main results

* `BooleanFunction.Made.evaluate_cases`: the values at the assignment of a valuation.
* `Bench.comparison_symmetric`: the functions of a comparison may be exchanged.
* `Comparison.equivalent_or_failed`: what is found of functions that mean the same.
* `Comparison.equivalence_consistent`: functions equivalent to the same one are not found to
  differ.
-/

namespace Junctor

variable {f g h : BooleanFunction}

/-- The variables in the union are those of both functions. -/
theorem mem_unionNames_sortedNames {left right : List String} {x : String} :
    x ∈ unionNames (sortedNames left) (sortedNames right) ↔ x ∈ left ∨ x ∈ right := by
  rw [mem_unionNames, mem_sortedNames, mem_sortedNames]

/-- The union of the variables of two functions does not depend on their order. -/
theorem unionNames_sortedNames_comm (left right : List String) :
    unionNames (sortedNames left) (sortedNames right) =
      unionNames (sortedNames right) (sortedNames left) :=
  unionNames_sortedNames_eq (pairwise_unionNames _ (pairwise_sortedNames left)) fun _ =>
    mem_unionNames_sortedNames.trans or_comm

/-! ### Exchanging the functions -/

namespace BooleanFunction

/-- At the assignment of a valuation a function that was made **has a value**, or none of its
rows matches. -/
theorem Made.evaluate_cases {union : List String} (made : f.Made)
    (covered : ∀ x ∈ f.names, x ∈ union) (v : String → Bool) :
    (∃ b, f.evaluate (Assignment.ofValuation union v) = .ok b) ∨
      f.evaluate (Assignment.ofValuation union v) =
        .error (.argument (.noRow (Assignment.ofValuation union v))) := by
  by_cases lacks : f.Lacks union
  · exact .inr (made.evaluate_of_lacks lacks v)
  · obtain ⟨meaning, means⟩ := made.exists_means
    exact .inl ⟨_, made.evaluate_eq means covered lacks v⟩

end BooleanFunction

namespace Search

/-- A search goes over sorted variables. -/
theorem sorted_ofPair {clock : Nat → Float} :
    (ofPair f g clock).names.Pairwise (· < ·) :=
  pairwise_unionNames _ (pairwise_sortedNames g.names)

/-- Searches over functions that were made are alike if the functions are exchanged. -/
theorem alike_exchanged (left : f.Made) (right : g.Made) (clock clock' : Nat → Float) :
    (ofPair f g clock).Alike (ofPair g f clock') := by
  have names : (ofPair f g clock).names = (ofPair g f clock').names :=
    unionNames_sortedNames_comm f.names g.names
  refine { names, agreeAt := fun index below => ?_ }
  obtain ⟨v, rfl⟩ := exists_rowNumber_eq (nodup_of_pairwise sorted_ofPair) below
  rw [assignment_rowNumber sorted_ofPair, agreeAt, agreeAt]
  simp only [ofPair]
  rcases left.evaluate_cases (fun x mem => mem_unionNames_sortedNames.mpr (.inl mem)) v with
    ⟨b, valueLeft⟩ | failedLeft
  · rcases right.evaluate_cases (fun x mem => mem_unionNames_sortedNames.mpr (.inr mem)) v with
      ⟨c, valueRight⟩ | failedRight
    · rw [valueLeft, valueRight]
      exact congrArg Except.ok (Bool.beq_comm ..)
    · rw [valueLeft, failedRight]
      rfl
  · rcases right.evaluate_cases (fun x mem => mem_unionNames_sortedNames.mpr (.inr mem)) v with
      ⟨c, valueRight⟩ | failedRight
    · rw [failedLeft, valueRight]
      rfl
    · rw [failedLeft, failedRight]

end Search

/-- Two functions that were made may be **exchanged**: with any options they get the same
answer, whatever has been called before either of the calls, and unless a call is refused for
an option that bears the name of an argument, it leaves the same statistics. -/
theorem Bench.comparison_symmetric (left : f.Made) (right : g.Made)
    (fields : List (String × Value)) :
    Entry.compareFunctions f g fields = Entry.compareFunctions g f fields ∧
      ∀ (desk : Desk) (calls calls' : List Call) (number number' : Nat)
        (clock clock' : Nat → Float),
        let outcome := ((fresh desk).after calls).call ⟨number, clock, some f, some g, fields⟩
        let outcome' := ((fresh desk).after calls').call ⟨number', clock', some g, some f, fields⟩
        outcome.1 = outcome'.1 ∧
          (Entry.run.check fields = .ok () →
            outcome.2.comparison number = outcome'.2.comparison number') := by
  have alike := Comparison.alike_of_search (Search.alike_exchanged left right)
  constructor
  · obtain ⟨outcome, -⟩ :=
      @Comparison.run_congr _ _ _ _ alike .initial .initial rfl presentClock presentClock fields
    rw [Entry.compareFunctions, Entry.compareFunctions, compare, compare, outcome]
  · intro desk calls calls' number number' clock clock'
    have footing : ((fresh desk).after calls).desk.footing =
        ((fresh desk).after calls').desk.footing :=
      (footing_after _ calls).trans (footing_after _ calls').symm
    exact call_congr alike footing number number' clock clock' fields

/-- The function of one variable with the number 1 and the one described by `y` cannot be
evaluated together. A comparison says so, whichever comes first, and so it does when it is
called a second time. -/
theorem Bench.comparison_symmetric_foreign_variable :
    ∃ f g, BooleanFunction.ofNumber (.int 1) (.int 1) = .ok f ∧
      BooleanFunction.ofFormula "y" = .ok g ∧
      let failed := Verdict.failed
        "cannot compare functions: no row of the truth table matches x1 = false, y = false"
      let call : Call := ⟨0, fun _ => 1, some f, some g, []⟩
      let outcome := ((fresh .initial).call call).2.call ⟨0, fun _ => 2, some g, some f, []⟩
      Entry.compareFunctions g f [] = .ok failed ∧ outcome.1 = .ok failed ∧
        (outcome.2.comparison 0).names = ["x1", "y"] ∧ (outcome.2.comparison 0).checked = 1 := by
  let f : BooleanFunction := ⟨["x1"], [false, true], .number (.int 1)⟩
  let g : BooleanFunction := ⟨["y"], [false, true], .formula "y" [.var "y"]⟩
  have madeNumber : BooleanFunction.ofNumber (.int 1) (.int 1) = .ok f := rfl
  have madeFormula : BooleanFunction.ofFormula "y" = .ok g := rfl
  refine ⟨f, g, madeNumber, madeFormula, ?_⟩
  intro failed call outcome
  have answered : Entry.compareFunctions f g [] = .ok failed := eq_ok_of_toOption (by decide)
  obtain ⟨same, calls⟩ := comparison_symmetric (.number madeNumber) (.formula madeFormula) []
  obtain ⟨answer, statistics⟩ := calls .initial [] [call] 0 0 presentClock fun _ => 2
  have statistics := statistics rfl
  refine ⟨same.symm.trans answered, answer.symm.trans answered, ?_, ?_⟩
  · exact (congrArg Comparison.names statistics).symm.trans (by decide)
  · exact (congrArg Comparison.checked statistics).symm.trans (by decide)

/-! ### Equivalence -/

namespace Comparison

variable {desk desk' desk'' : Desk} {clock clock' clock'' : Nat → Float}
variable {fields : List (String × Value)} {options : Options} {bound : Int}
variable {meaningLeft meaningRight : (String → Bool) → Bool}

/-- Functions that were made and are found to be equivalent mean the same. -/
theorem means_eq_of_equivalent (left : f.Made) (right : g.Made) (meansLeft : f.Means meaningLeft)
    (meansRight : g.Means meaningRight) (given : Options.ofFields fields = .ok options)
    (valid : options.Valid bound) (writable : options.isWritable = true)
    (equivalent : (run desk clock (some f) (some g) fields).outcome = .ok .equivalent) :
    meaningLeft = meaningRight := by
  have sorted := pairwise_unionNames (sortedNames f.names) (pairwise_sortedNames g.names)
  have free : ¬ Obstacle bound (unionNames (sortedNames f.names) (sortedNames g.names)) f g := by
    intro obstacle
    obtain ⟨reason, failed⟩ := failed_of_obstacle left right given valid writable sorted
      (fun _ => mem_unionNames_sortedNames) obstacle
    cases failed.symm.trans equivalent
  rcases equivalent_or_firstDifference left right meansLeft meansRight given valid writable sorted
    (fun _ => mem_unionNames_sortedNames) free with ⟨-, same⟩ | ⟨v, -, different⟩
  · exact funext same
  · cases different.symm.trans equivalent

/-- Functions that were made and mean the same are **found to be equivalent**, or there is an
obstacle and the comparison fails. -/
theorem equivalent_or_failed {meaning : (String → Bool) → Bool} (left : f.Made) (right : g.Made)
    (meansLeft : f.Means meaning) (meansRight : g.Means meaning)
    (given : Options.ofFields fields = .ok options) (valid : options.Valid bound)
    (writable : options.isWritable = true) :
    let obstacle := Obstacle bound (unionNames (sortedNames f.names) (sortedNames g.names)) f g
    let outcome := (run desk clock (some f) (some g) fields).outcome
    ¬ obstacle ∧ outcome = .ok .equivalent ∨
      obstacle ∧ ∃ reason, outcome = .ok (.failed reason) := by
  intro obstacle outcome
  have sorted := pairwise_unionNames (sortedNames f.names) (pairwise_sortedNames g.names)
  rcases Classical.em obstacle with present | free
  · exact .inr ⟨present, failed_of_obstacle left right given valid writable sorted
      (fun _ => mem_unionNames_sortedNames) present⟩
  · rcases equivalent_or_firstDifference left right meansLeft meansRight given valid writable sorted
      (fun _ => mem_unionNames_sortedNames) free with ⟨equivalent, -⟩ | ⟨v, ⟨differ, -⟩, -⟩
    · exact .inl ⟨free, equivalent⟩
    · exact absurd rfl differ

/-- If, with the usual options, two functions are both found equivalent to a third one, they
are **not found to differ**: they are found equivalent too, unless there are too many
variables in both, or one that a function from a number lacks, and then the comparison
fails. -/
theorem equivalence_consistent (madeLeft : f.Made) (madeMiddle : g.Made) (madeRight : h.Made)
    (first : (run desk clock (some f) (some g) []).outcome = .ok .equivalent)
    (second : (run desk' clock' (some g) (some h) []).outcome = .ok .equivalent) :
    let obstacle := Obstacle 8 (unionNames (sortedNames f.names) (sortedNames h.names)) f h
    let outcome := (run desk'' clock'' (some f) (some h) []).outcome
    ¬ obstacle ∧ outcome = .ok .equivalent ∨
      obstacle ∧ ∃ reason, outcome = .ok (.failed reason) := by
  obtain ⟨meaningLeft, meansLeft⟩ := madeLeft.exists_means
  obtain ⟨meaningMiddle, meansMiddle⟩ := madeMiddle.exists_means
  obtain ⟨meaningRight, meansRight⟩ := madeRight.exists_means
  have same : meaningLeft = meaningRight :=
    calc meaningLeft
        = meaningMiddle := means_eq_of_equivalent madeLeft madeMiddle meansLeft meansMiddle rfl
          Options.valid_default rfl first
      _ = meaningRight := means_eq_of_equivalent madeMiddle madeRight meansMiddle meansRight rfl
          Options.valid_default rfl second
  exact equivalent_or_failed madeLeft madeRight meansLeft (same ▸ meansRight) rfl
    Options.valid_default rfl

/-- The formula `x1` is equivalent to a function of one variable and to a function of two, of
which the second does not matter. The former lacks the latter's second variable. -/
theorem equivalence_consistent_missing_variable :
    ∃ f g h, BooleanFunction.ofNumber (.int 1) (.int 1) = .ok f ∧
      BooleanFunction.ofFormula "x1" = .ok g ∧
      BooleanFunction.ofNumber (.int 2) (.int 3) = .ok h ∧
      compare (some f) (some g) [] = .ok .equivalent ∧
      compare (some g) (some h) [] = .ok .equivalent ∧
      ∃ reason, compare (some f) (some h) [] = .ok (.failed reason) := by
  let f : BooleanFunction := ⟨["x1"], [false, true], .number (.int 1)⟩
  let g : BooleanFunction := ⟨["x1"], [false, true], .formula "x1" [.var "x1"]⟩
  let h : BooleanFunction := ⟨["x1", "x2"], [false, false, true, true], .number (.int 3)⟩
  have madeLeft : BooleanFunction.ofNumber (.int 1) (.int 1) = .ok f := rfl
  have madeMiddle : BooleanFunction.ofFormula "x1" = .ok g := rfl
  have madeRight : BooleanFunction.ofNumber (.int 2) (.int 3) = .ok h := rfl
  have first : compare (some f) (some g) [] = .ok .equivalent := eq_ok_of_toOption (by decide)
  have second : compare (some g) (some h) [] = .ok .equivalent := eq_ok_of_toOption (by decide)
  refine ⟨f, g, h, madeLeft, madeMiddle, madeRight, first, second, ?_⟩
  rcases equivalence_consistent (.number madeLeft) (.formula madeMiddle) (.number madeRight)
    first second with ⟨free, -⟩ | ⟨-, failed⟩
  · have lacks : f.Lacks ["x1", "x2"] := ⟨⟨_, rfl⟩, "x2", by decide, by decide⟩
    exact absurd (.inr (.inl lacks)) free
  · exact failed

end Comparison

end Junctor
