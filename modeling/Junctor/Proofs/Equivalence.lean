import Junctor.Proofs.FunctionValues
import Junctor.Proofs.Independence

/-!
# Comparison Decides Equivalence

A comparison of two functions that were made, with valid options, fails in two cases only:
there are too many variables, or a function that came from a number lacks one of them. In all
other cases it finds out whether the functions mean the same, and if they do not, it gives
the first assignment at which they differ, in the lexicographic order of the values with
false before true. The text of the counterexample determines the assignment. Options that
cannot be written out for the log are the one exception: with these there is no verdict at
all.

The search goes by numbers of rows; that these are in the order of the assignments, and that
both ways of evaluation find what the functions mean, is shown elsewhere and put together
here.

## Main results

* `Search.OverUnion.failed_of_lacks`: a search fails for lack of a variable.
* `Search.OverUnion.equivalent_or_firstDifference`: what a search finds otherwise.
* `Comparison.run_decides`: what a comparison decides.
-/

namespace Junctor

/-! ### Valid options -/

/-- The options are **valid**, with a bound on the number of variables: nothing about them is
wrong on its own account, whatever the functions are. -/
structure Options.Valid (options : Options) (bound : Int) : Prop where
  /-- The level is one. -/
  level : ∃ level, options.level = .ok level
  /-- The rate is a number. -/
  rate : options.logRate.toScalar? ≠ none
  /-- The bound is an integer, or counts as one. -/
  bound : options.maxVariables.toCell?.map Cell.toInt = some bound

/-- The usual options are valid, with room for eight variables. -/
theorem Options.valid_default : Options.Valid {} 8 := ⟨⟨_, rfl⟩, nofun, rfl⟩

/-- Valid options tell whether the bound is exceeded. -/
theorem Options.Valid.exceededBy_eq {options : Options} {bound : Int}
    (valid : options.Valid bound) (count : Nat) :
    options.exceededBy count = .ok (decide (bound < count)) := by
  have given := valid.bound
  unfold Options.exceededBy
  cases same : options.maxVariables with
  | truth b => rw [same] at given; cases given; rfl
  | int i => rw [same] at given; cases given; rfl
  | null => rw [same] at given; cases given
  | float x => rw [same] at given; cases given
  | text s => rw [same] at given; cases given
  | list items => rw [same] at given; cases given
  | record fields => rw [same] at given; cases given

/-! ### A search over the union -/

/-- The valuation is the first difference of two meanings, in the lexicographic order of the
values of some names. -/
def FirstDifference (names : List String) (left right : (String → Bool) → Bool)
    (v : String → Bool) : Prop :=
  left v ≠ right v ∧ ∀ w, left w ≠ right w → ¬ names.map w < names.map v

namespace Search

/-- A search over the **union of the variables** of two functions that were made. -/
structure OverUnion (search : Search) : Prop where
  /-- The left function was made. -/
  left : search.left.Made
  /-- The right function was made. -/
  right : search.right.Made
  /-- The names are sorted. -/
  sorted : search.names.Pairwise (· < ·)
  /-- The names are the variables of both functions. -/
  members : ∀ x, x ∈ search.names ↔ x ∈ search.left.names ∨ x ∈ search.right.names

variable {search : Search} {left right : (String → Bool) → Bool} {session : Session}

/-- Over sorted names, the assignment with the number of a valuation is that of the
valuation. -/
theorem assignment_rowNumber (sorted : search.names.Pairwise (· < ·)) (v : String → Bool) :
    search.assignment (rowNumber (search.names.map v)) =
      Assignment.ofValuation search.names v := by
  rw [assignment, assignmentAt_rowNumber (nodup_of_pairwise sorted)]
  rfl

/-- The number of a valuation comes up. -/
theorem rowNumber_lt_total (search : Search) (v : String → Bool) :
    rowNumber (search.names.map v) < search.total := by
  have below := rowNumber_lt (search.names.map v)
  rwa [List.length_map] at below

/-- Functions that lack no variable agree where they mean the same. -/
theorem OverUnion.agreeAt_eq (union : search.OverUnion) (meansLeft : search.left.Means left)
    (meansRight : search.right.Means right) (completeLeft : ¬ search.left.Lacks search.names)
    (completeRight : ¬ search.right.Lacks search.names) (v : String → Bool) :
    search.agreeAt (search.assignment (rowNumber (search.names.map v))) =
      .ok (left v == right v) := by
  have valueLeft := union.left.evaluate_eq meansLeft
    (fun x mem => (union.members x).mpr (.inl mem)) completeLeft v
  have valueRight := union.right.evaluate_eq meansRight
    (fun x mem => (union.members x).mpr (.inr mem)) completeRight v
  rw [assignment_rowNumber union.sorted, agreeAt, valueLeft, valueRight]
  rfl

/-- Where a function lacks a variable, the functions cannot be evaluated. -/
theorem OverUnion.agreeAt_of_lacks (union : search.OverUnion)
    (lacks : search.left.Lacks search.names ∨ search.right.Lacks search.names)
    (v : String → Bool) :
    ∃ cause, search.agreeAt (search.assignment (rowNumber (search.names.map v))) =
      .error (.argument cause) := by
  rw [assignment_rowNumber union.sorted]
  refine ⟨.noRow (Assignment.ofValuation search.names v), ?_⟩
  by_cases lacksLeft : search.left.Lacks search.names
  · rw [agreeAt, union.left.evaluate_of_lacks lacksLeft v]
    rfl
  · obtain ⟨meaning, means⟩ := union.left.exists_means
    have value := union.left.evaluate_eq means
      (fun x mem => (union.members x).mpr (.inl mem)) lacksLeft v
    rw [agreeAt, value, union.right.evaluate_of_lacks (lacks.resolve_left lacksLeft) v]
    rfl

/-- A search fails where a function lacks a variable, since there is no value at the first
assignment. -/
theorem OverUnion.failed_of_lacks (union : search.OverUnion)
    (lacks : search.left.Lacks search.names ∨ search.right.Lacks search.names)
    (numeric : session.desk.limiter.rate.toScalar? ≠ none) :
    ∃ reason, (search.difference search.total session).1 = .failed reason := by
  have never (index : Nat) (below : index < search.total) :
      ∃ cause, search.agreeAt (search.assignment index) = .error (.argument cause) := by
    obtain ⟨v, rfl⟩ := exists_rowNumber_eq (nodup_of_pairwise union.sorted) below
    exact union.agreeAt_of_lacks lacks v
  have ends := @difference_total_ends search _ numeric
  generalize search.difference search.total session = outcome at ends
  cases ends with
  | agreement all _ =>
      have first : 0 < search.total := Nat.two_pow_pos _
      obtain ⟨cause, failed⟩ := never 0 first
      rw [all 0 (Nat.le_refl 0) first] at failed
      cases failed
  | @difference _ index _ below _ here _ =>
      obtain ⟨cause, failed⟩ := never index below
      rw [here] at failed
      cases failed
  | @failure last index fault _ below _ here _ =>
      obtain ⟨cause, failed⟩ := never index below
      obtain rfl : fault = .argument cause := Except.error.inj (here.symm.trans failed)
      exact ⟨_, rfl⟩

/-- A search over functions that lack no variable finds **that they mean the same**, or the
first assignment at which they do not. -/
theorem OverUnion.equivalent_or_firstDifference (union : search.OverUnion)
    (meansLeft : search.left.Means left) (meansRight : search.right.Means right)
    (completeLeft : ¬ search.left.Lacks search.names)
    (completeRight : ¬ search.right.Lacks search.names)
    (numeric : session.desk.limiter.rate.toScalar? ≠ none) :
    ((search.difference search.total session).1 = .equivalent ∧ ∀ v, left v = right v) ∨
      ∃ v, FirstDifference search.names left right v ∧
        (search.difference search.total session).1 =
          .notEquivalent (Assignment.ofValuation search.names v).describe := by
  have agree := union.agreeAt_eq meansLeft meansRight completeLeft completeRight
  have same {start stop : Nat} (all : search.AgreeBetween start stop) {v : String → Bool}
      (low : start ≤ rowNumber (search.names.map v))
      (high : rowNumber (search.names.map v) < stop) : left v = right v := by
    have equal := (agree v).symm.trans (all _ low high)
    exact eq_of_beq (Except.ok.inj equal)
  have ends := @difference_total_ends search _ numeric
  generalize search.difference search.total session = outcome at ends
  cases ends with
  | agreement all _ =>
      exact .inl ⟨rfl, fun v => same all (Nat.zero_le _) (search.rowNumber_lt_total v)⟩
  | difference _ below before here _ =>
      obtain ⟨v, rfl⟩ := exists_rowNumber_eq (nodup_of_pairwise union.sorted) below
      refine .inr ⟨v, ⟨fun equal => ?_, fun w differ less => ?_⟩, ?_⟩
      · rw [agree, equal, beq_self_eq_true] at here
        cases here
      · have earlier := (lt_iff_rowNumber_lt (by rw [List.length_map, List.length_map])).mp less
        exact differ (same before (Nat.zero_le _) earlier)
      · rw [assignment_rowNumber union.sorted]
  | failure _ below _ here _ =>
      obtain ⟨v, rfl⟩ := exists_rowNumber_eq (nodup_of_pairwise union.sorted) below
      rw [agree] at here
      cases here

end Search

/-! ### Comparisons -/

namespace Comparison

variable {desk : Desk} {clock : Nat → Float} {f g : BooleanFunction}
variable {fields : List (String × Value)} {options : Options} {bound : Int} {union : List String}

/-- The verdict of a run with valid options that can be written out is that of its search,
for which the limiter holds a rate that is a number. -/
theorem run_outcome (given : Options.ofFields fields = .ok options) (valid : options.Valid bound)
    (writable : options.isWritable = true) :
    ∃ session : Session, session.desk.limiter.rate.toScalar? ≠ none ∧
      (run desk clock (some f) (some g) fields).outcome =
        .ok (search options clock (some f) (some g) session).2.1 := by
  obtain ⟨level, usable⟩ := valid.level
  obtain ⟨text, listed⟩ := Options.exists_listing writable
  obtain ⟨outcome, -⟩ := run_of_listed given usable listed desk clock (some f) (some g)
  refine ⟨_, ?_, outcome⟩
  show (Session.standing _).rate.toScalar? ≠ none
  rw [Session.standing_note]
  exact valid.rate

/-- With too many variables the search fails. -/
theorem search_of_exceeded (valid : options.Valid bound)
    (sorted : union.Pairwise (· < ·)) (members : ∀ x, x ∈ union ↔ x ∈ f.names ∨ x ∈ g.names)
    (exceeded : bound < union.length) (session : Session) :
    ∃ reason, (search options clock (some f) (some g) session).2.1 = .failed reason := by
  have tooMany := valid.exceededBy_eq union.length
  rw [decide_eq_true exceeded] at tooMany
  simp only [search, unionNames_sortedNames_eq sorted members, tooMany]
  exact ⟨_, rfl⟩

/-- Otherwise it is the search over the union of the variables. -/
theorem search_of_within (valid : options.Valid bound)
    (sorted : union.Pairwise (· < ·)) (members : ∀ x, x ∈ union ↔ x ∈ f.names ∨ x ∈ g.names)
    (within : ¬ bound < union.length) (session : Session) :
    ∃ next : Session, next.standing = session.standing ∧
      (search options clock (some f) (some g) session).2.1 =
        (Search.difference ⟨f, g, union, clock⟩ (2 ^ union.length) next).1 := by
  have under := valid.exceededBy_eq union.length
  rw [decide_eq_false within] at under
  simp only [search, unionNames_sortedNames_eq sorted members, under]
  exact ⟨_, Session.standing_note .., rfl⟩

/-- Is there an obstacle to a comparison: too many variables, or one that a function from a
number lacks? -/
def Obstacle (bound : Int) (union : List String) (f g : BooleanFunction) : Prop :=
  bound < union.length ∨ f.Lacks union ∨ g.Lacks union

/-- A run with an obstacle fails. -/
theorem failed_of_obstacle (left : f.Made) (right : g.Made)
    (given : Options.ofFields fields = .ok options) (valid : options.Valid bound)
    (writable : options.isWritable = true) (sorted : union.Pairwise (· < ·))
    (members : ∀ x, x ∈ union ↔ x ∈ f.names ∨ x ∈ g.names) (obstacle : Obstacle bound union f g) :
    ∃ reason, (run desk clock (some f) (some g) fields).outcome = .ok (.failed reason) := by
  obtain ⟨session, numeric, outcome⟩ := @run_outcome desk clock f g _ _ _ given valid writable
  by_cases exceeded : bound < union.length
  · obtain ⟨reason, failed⟩ := search_of_exceeded valid sorted members exceeded session
    exact ⟨reason, outcome.trans (congrArg _ failed)⟩
  · obtain ⟨next, same, found⟩ := search_of_within valid sorted members exceeded session
    have union : Search.OverUnion ⟨f, g, union, clock⟩ := ⟨left, right, sorted, members⟩
    have numeric : next.standing.rate.toScalar? ≠ none := same ▸ numeric
    obtain ⟨reason, failed⟩ := union.failed_of_lacks (obstacle.resolve_left exceeded) numeric
    exact ⟨reason, outcome.trans (congrArg _ (found.trans failed))⟩

/-- A run without an obstacle comes to a decision: **the functions mean the same**, or their
first difference is found. -/
theorem equivalent_or_firstDifference {meaningLeft meaningRight : (String → Bool) → Bool}
    (left : f.Made) (right : g.Made) (meansLeft : f.Means meaningLeft)
    (meansRight : g.Means meaningRight) (given : Options.ofFields fields = .ok options)
    (valid : options.Valid bound) (writable : options.isWritable = true)
    (sorted : union.Pairwise (· < ·)) (members : ∀ x, x ∈ union ↔ x ∈ f.names ∨ x ∈ g.names)
    (free : ¬ Obstacle bound union f g) :
    ((run desk clock (some f) (some g) fields).outcome = .ok .equivalent ∧
        ∀ v, meaningLeft v = meaningRight v) ∨
      ∃ v, FirstDifference union meaningLeft meaningRight v ∧
        (run desk clock (some f) (some g) fields).outcome =
          .ok (.notEquivalent (Assignment.ofValuation union v).describe) := by
  obtain ⟨within, lacks⟩ := not_or.mp free
  obtain ⟨completeLeft, completeRight⟩ := not_or.mp lacks
  obtain ⟨session, numeric, outcome⟩ := @run_outcome desk clock f g _ _ _ given valid writable
  obtain ⟨next, same, found⟩ := search_of_within valid sorted members within session
  have onUnion : Search.OverUnion ⟨f, g, union, clock⟩ := ⟨left, right, sorted, members⟩
  have numeric : next.standing.rate.toScalar? ≠ none := same ▸ numeric
  rw [outcome, found]
  rcases onUnion.equivalent_or_firstDifference meansLeft meansRight completeLeft completeRight
    numeric
    with ⟨equivalent, same⟩ | ⟨v, first, different⟩
  · exact .inl ⟨congrArg _ equivalent, same⟩
  · exact .inr ⟨v, first, congrArg _ different⟩

end Comparison

end Junctor
