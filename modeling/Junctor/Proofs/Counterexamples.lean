import Junctor.Proofs.Consistency
import Junctor.Proofs.Enumeration
import Junctor.Proofs.FunctionNumbers

/-!
# When a Counterexample Is Shown

The text of a counterexample lists the values of all variables. If there is a variable, the
text is not empty and a verdict in words mentions it. If there is none, then two functions
that are not equivalent are two different constants. They differ at the empty assignment,
whose text is empty too, and so this counterexample cannot be told from none at all.

A search gives no other counterexample than the text of one of its assignments, and every
other end of a comparison gives none. So all ways into a comparison show a counterexample
exactly for functions that are found to differ, the constants apart; a function that is given
by its number is none.

## Main results

* `Assignment.describe_eq_empty_iff`: the text of an assignment is empty for the empty
  assignment only.
* `Search.exists_assignment_of_notEquivalent`: where the counterexample of a search comes from.
* `Comparison.shownExactlyIf_run`: when a comparison shows a counterexample.
* `Entry.counterexample_shown_exactly_if`: the same for all ways into a comparison.
* `Entry.constants_differ_unshown`: two constants differ without a counterexample.
-/

namespace Junctor

namespace Verdict

/-- The functions are found not to be equivalent. -/
def IsDifference (verdict : Verdict) : Prop := ∃ text, verdict = .notEquivalent text

/-- A counterexample is **shown exactly if** something holds: there is a text that is not
empty, and the verdict in words mentions one. -/
structure ShownExactlyIf (verdict : Verdict) (condition : Prop) : Prop where
  /-- There is a text. -/
  present : verdict.counterexample ≠ "" ↔ condition
  /-- It is mentioned. -/
  mentioned :
    (∃ text, verdict.describe = verdict.message ++ "; counterexample: " ++ text) ↔ condition

/-- A verdict in words mentions a counterexample exactly if its text is not empty. -/
theorem describe_mentions_iff (verdict : Verdict) :
    (∃ text, verdict.describe = verdict.message ++ "; counterexample: " ++ text) ↔
      verdict.counterexample ≠ "" := by
  unfold describe
  split
  · next empty =>
      refine iff_of_false ?_ (not_not_intro empty)
      rintro ⟨text, same⟩
      have long := congrArg String.length same
      rw [String.length_append, String.length_append] at long
      have mark : "; counterexample: ".length = 18 := by decide
      omega
  · next present => exact iff_of_true ⟨_, rfl⟩ present

/-- A counterexample is shown exactly if its text is not empty. -/
theorem shownExactlyIf_of_present {verdict : Verdict} {condition : Prop}
    (present : verdict.counterexample ≠ "" ↔ condition) : verdict.ShownExactlyIf condition :=
  ⟨present, verdict.describe_mentions_iff.trans present⟩

/-- Only of functions that are not equivalent is there a counterexample. -/
theorem isDifference_of_counterexample {verdict : Verdict} (present : verdict.counterexample ≠ "") :
    verdict.IsDifference := by
  cases verdict with
  | notEquivalent text => exact ⟨text, rfl⟩
  | equivalent => exact absurd rfl present
  | failed reason => exact absurd rfl present

/-- Where no difference is found, no counterexample is shown. -/
theorem shownExactlyIf_of_not_isDifference {verdict : Verdict} {condition : Prop}
    (same : ¬ verdict.IsDifference) (unmet : ¬ condition) : verdict.ShownExactlyIf condition :=
  shownExactlyIf_of_present (iff_of_false (mt isDifference_of_counterexample same) unmet)

end Verdict

/-- The text of an assignment is empty exactly if nothing is assigned, since every binding
shows at least its sign of equality. -/
theorem Assignment.describe_eq_empty_iff {assignment : Assignment} :
    assignment.describe = "" ↔ assignment = [] := by
  cases assignment with
  | nil => exact iff_of_true rfl rfl
  | cons pair rest =>
      obtain ⟨x, value⟩ := pair
      refine iff_of_false (fun empty => ?_) (List.cons_ne_nil _ _)
      cases rest with
      | nil => simp [describe] at empty
      | cons next rest => simp [describe] at empty

namespace Search

/-- The end of a search that cannot go on is no difference. -/
theorem not_isDifference_stop (session : Session) (fault : Fault) :
    ¬ (session.stop fault).1.IsDifference := by
  rintro ⟨text, found⟩
  cases fault <;> cases found

/-- The counterexample that a search gives is the text of an assignment that comes up in it. -/
theorem exists_assignment_of_notEquivalent {search : Search} {remaining : Nat} {session : Session}
    {text : String} (found : (search.difference remaining session).1 = .notEquivalent text) :
    ∃ index, text = (search.assignment index).describe := by
  induction remaining generalizing session with
  | zero => cases found
  | succ remaining ih =>
      rw [difference_succ] at found
      split at found
      · exact absurd ⟨_, found⟩ (not_isDifference_stop _ _)
      · split at found
        · exact absurd ⟨_, found⟩ (not_isDifference_stop _ _)
        · exact ih found
        · cases found
          exact ⟨_, rfl⟩

/-- The text of an assignment that comes up is empty exactly if neither function has a
variable. -/
theorem describe_assignment_ofPair {f g : BooleanFunction} {clock : Nat → Float}
    (index : Nat) :
    ((ofPair f g clock).assignment index).describe = "" ↔ f.names = [] ∧ g.names = [] := by
  have bound :=
    map_fst_assignmentAt (nodup_of_pairwise (@sorted_ofPair f g clock)) index
  rw [Assignment.describe_eq_empty_iff, assignment, Assignment.ofTruth, List.map_eq_nil_iff,
    ← List.map_eq_nil_iff (f := Prod.fst), bound]
  simp only [List.eq_nil_iff_forall_not_mem, ofPair, mem_unionNames_sortedNames, not_or,
    forall_and]

end Search

/-- Has one of two functions, of which either may be missing, a variable? -/
def HaveVariable (f g : Option BooleanFunction) : Prop :=
  ∃ h, (f = some h ∨ g = some h) ∧ h.names ≠ []

/-- Of two functions that are there one has a variable if not both have none. -/
theorem haveVariable_some_iff {f g : BooleanFunction} :
    HaveVariable (some f) (some g) ↔ ¬ (f.names = [] ∧ g.names = []) := by
  rw [not_and_or]
  constructor
  · rintro ⟨h, same | same, names⟩
    · cases same; exact .inl names
    · cases same; exact .inr names
  · rintro (names | names)
    · exact ⟨f, .inl rfl, names⟩
    · exact ⟨g, .inr rfl, names⟩

namespace Comparison

variable {desk : Desk} {clock : Nat → Float} {f g : Option BooleanFunction}
variable {fields : List (String × Value)}

/-- A search gives a counterexample only for two functions that are there, and it is the text
of an assignment of their variables. -/
theorem exists_assignment_of_search {options : Options} {session : Session} {text : String}
    (found : (search options clock f g session).2.1 = .notEquivalent text) :
    ∃ f' g', f = some f' ∧ g = some g' ∧
      ∃ index, text = ((Search.ofPair f' g' clock).assignment index).describe := by
  by_cases missing : f = none ∨ g = none
  · rw [search_of_missing missing] at found
    exact absurd ⟨_, found⟩ (Search.not_isDifference_stop _ _)
  · obtain ⟨f', rfl⟩ := Option.ne_none_iff_exists'.mp (not_or.mp missing).1
    obtain ⟨g', rfl⟩ := Option.ne_none_iff_exists'.mp (not_or.mp missing).2
    refine ⟨f', g', rfl, rfl, ?_⟩
    rw [search_some] at found
    dsimp only at found
    split at found
    · exact absurd ⟨_, found⟩ (Search.not_isDifference_stop _ _)
    · cases found
    · exact Search.exists_assignment_of_notEquivalent found

/-- The counterexample of a run is empty exactly if neither function has a variable. -/
theorem eq_empty_iff_of_run {text : String}
    (found : (run desk clock f g fields).outcome = .ok (.notEquivalent text)) :
    text = "" ↔ ¬ HaveVariable f g := by
  by_cases usable : ∃ options level, Options.ofFields fields = .ok options ∧
    options.level = .ok level
  · obtain ⟨options, level, given, usable⟩ := usable
    cases listing : options.listing with
    | error fault =>
        cases (run_of_unlisted given usable listing desk clock f g).1.symm.trans found
    | ok listed =>
        obtain ⟨outcome, -⟩ := run_of_listed given usable listing desk clock f g
        have found := Except.ok.inj (outcome.symm.trans found)
        obtain ⟨f', g', rfl, rfl, index, rfl⟩ := exists_assignment_of_search found
        rw [Search.describe_assignment_ofPair, haveVariable_some_iff, not_not]
  · obtain ⟨options, cause, refused⟩ := exists_refusal_of_unusable
      fun options level given usable' => usable ⟨options, level, given, usable'⟩
    rw [refused] at found
    cases found

/-- A run shows a counterexample **exactly if** the functions are found to differ and there
is a variable. -/
theorem shownExactlyIf_run {verdict : Verdict}
    (answered : (run desk clock f g fields).outcome = .ok verdict) :
    verdict.ShownExactlyIf (verdict.IsDifference ∧ HaveVariable f g) := by
  refine Verdict.shownExactlyIf_of_present ⟨fun present => ?_, ?_⟩
  · obtain ⟨text, rfl⟩ := Verdict.isDifference_of_counterexample present
    exact ⟨⟨text, rfl⟩, not_not.mp (mt (eq_empty_iff_of_run answered).mpr present)⟩
  · rintro ⟨⟨text, rfl⟩, among⟩
    exact mt (eq_empty_iff_of_run answered).mp (not_not_intro among)

end Comparison

/-! ### All ways into a comparison -/

/-- If a function cannot be made, no difference is found. -/
theorem not_isDifference_unmade (what : String) (fault : Fault) :
    ¬ (unmade what fault).IsDifference := by
  rintro ⟨text, found⟩
  cases fault <;> cases found

/-- A function that is given by its number has a variable. -/
theorem BooleanFunction.names_ne_nil_of_ofValues {count number : Value} {f : BooleanFunction}
    (given : ofValues count number = .ok f) : f.names ≠ [] := by
  simp only [ofValues] at given
  split at given
  · next count number _ _ =>
      unfold ofNumber at given
      split at given
      · cases given
      · next within =>
          split at given
          · cases given
          · cases given
            have bounds : 1 ≤ count.toInt ∧ count.toInt ≤ 10 :=
              countInBounds_iff.mp (by simpa using within)
            intro unnamed
            have long : (numberedVariables count.toInt.toNat).length = 0 :=
              congrArg List.length unnamed
            rw [length_numberedVariables] at long
            omega
  · split at given <;> cases given
  · cases given

namespace Entry

/-- Two functions that are compared show a counterexample exactly if they are found to differ
and one of them has a variable. -/
theorem shownExactlyIf_compareFunctions {f g : BooleanFunction} {fields : List (String × Value)}
    {verdict : Verdict} (answered : compareFunctions f g fields = .ok verdict) :
    verdict.ShownExactlyIf (verdict.IsDifference ∧ ¬ (f.names = [] ∧ g.names = [])) := by
  obtain ⟨_, -, answered⟩ := bind_eq_ok_iff.mp answered
  obtain ⟨_, -, answered⟩ := bind_eq_ok_iff.mp answered
  rw [← haveVariable_some_iff]
  exact Comparison.shownExactlyIf_run answered

/-- A counterexample is shown **exactly if** the functions are found to differ and one of
them has a variable, whichever way into a comparison is taken. A function that is given by
its number always has one, so that its counterexamples are all shown. -/
theorem counterexample_shown_exactly_if (fields : List (String × Value)) :
    (∀ (desk : Desk) (clock : Nat → Float) (f g : Option BooleanFunction) (verdict : Verdict),
      (Comparison.run desk clock f g fields).outcome = .ok verdict →
        verdict.ShownExactlyIf (verdict.IsDifference ∧ HaveVariable f g)) ∧
    (∀ (f g : BooleanFunction) (verdict : Verdict), compareFunctions f g fields = .ok verdict →
      verdict.ShownExactlyIf (verdict.IsDifference ∧ ¬ (f.names = [] ∧ g.names = []))) ∧
    (∀ (left right : Value) (verdict : Verdict), compareFormulas left right fields = .ok verdict →
      verdict.ShownExactlyIf (verdict.IsDifference ∧
        ∃ f g, describedByFormulas left right = .ok (f, g) ∧ ¬ (f.names = [] ∧ g.names = []))) ∧
    (∀ (count number formula : Value) (verdict : Verdict),
      compareNumberAndFormula count number formula fields = .ok verdict →
        verdict.ShownExactlyIf verdict.IsDifference) := by
  refine ⟨fun desk clock f g verdict => Comparison.shownExactlyIf_run,
    fun f g verdict => shownExactlyIf_compareFunctions, fun left right verdict answered => ?_,
    fun count number formula verdict answered => ?_⟩
  · obtain ⟨_, -, answered⟩ := bind_eq_ok_iff.mp answered
    cases described : describedByFormulas left right with
    | error fault =>
        rw [described] at answered
        cases answered
        have same := not_isDifference_unmade " formulas" fault
        exact Verdict.shownExactlyIf_of_not_isDifference same fun differ => same differ.1
    | ok pair =>
        obtain ⟨f, g⟩ := pair
        rw [described] at answered
        have shown := shownExactlyIf_compareFunctions answered
        have among : (∃ f' g', Except.ok (f, g) = (.ok (f', g') : Except Fault _) ∧
            ¬ (f'.names = [] ∧ g'.names = [])) ↔ ¬ (f.names = [] ∧ g.names = []) := by
          simp
        rwa [among]
  · obtain ⟨_, -, answered⟩ := bind_eq_ok_iff.mp answered
    cases described : describedByNumber count number formula with
    | error fault =>
        rw [described] at answered
        cases answered
        have same := not_isDifference_unmade "" fault
        exact Verdict.shownExactlyIf_of_not_isDifference same same
    | ok pair =>
        obtain ⟨f, g⟩ := pair
        rw [described] at answered
        obtain ⟨_, given, made⟩ := bind_eq_ok_iff.mp described
        obtain ⟨_, -, last⟩ := bind_eq_ok_iff.mp made
        cases last
        have shown := shownExactlyIf_compareFunctions answered
        have among : ¬ (f.names = [] ∧ g.names = []) := fun unnamed =>
          BooleanFunction.names_ne_nil_of_ofValues given unnamed.1
        rwa [and_iff_left among] at shown

/-- A variable and its negation differ where the variable is false, and the verdict mentions
this. -/
theorem counterexample_shown_exactly_if_negation :
    ∃ verdict, compareFormulas (.text "x") (.text "!x") [] = .ok verdict ∧
      verdict.counterexample = "x = false" ∧ verdict.IsDifference ∧
      ∃ text, verdict.describe = verdict.message ++ "; counterexample: " ++ text := by
  have answered : compareFormulas (.text "x") (.text "!x") [] = .ok (.notEquivalent "x = false") :=
    eq_ok_of_toOption (by decide +kernel)
  obtain ⟨-, -, formulas, -⟩ := counterexample_shown_exactly_if []
  have shown := formulas _ _ _ answered
  have differ := shown.present.mp (by decide)
  exact ⟨_, answered, rfl, differ.1, shown.mentioned.mpr differ⟩

/-- **The constants are found to differ, but no counterexample is shown**: the only
assignment of no variables has the empty text, and an empty counterexample is left out. -/
theorem constants_differ_unshown :
    ∃ verdict, compareFormulas (.text "0") (.text "1") [] = .ok verdict ∧ verdict.IsDifference ∧
      verdict.counterexample = "" ∧ verdict.describe = verdict.message ∧
      ¬ verdict.ShownExactlyIf verdict.IsDifference := by
  have answered : compareFormulas (.text "0") (.text "1") [] = .ok (.notEquivalent "") :=
    eq_ok_of_toOption (by decide +kernel)
  exact ⟨_, answered, ⟨"", rfl⟩, rfl, rfl, fun shown => shown.present.mpr ⟨"", rfl⟩ rfl⟩

end Entry

end Junctor
