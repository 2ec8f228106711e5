import Junctor.Comparison

/-!
# Entry Points of a Comparison

A comparison is entered with arguments that have their places and with options given by name.
The arguments have names too, and an option must not bear one of them: such a call is refused
before anything is compared. The entry points that take descriptions hand the options on to
those that take functions, so that the names of all of them are taken, in the order in which
they are reached.

## Main results

* `Entry.check`: the refusal of an option with a name that is taken; `Entry.check_eq_ok_iff`.
* `Entry.compareFunctions`: comparisons of functions.
* `Entry.compareFormulas`, `Entry.compareNumberAndFormula`: comparisons of what is described by
  formulas and numbers.
-/

namespace Junctor

/-- An **entry point** of a comparison: a run itself, or one of the functions in front of it,
which take two functions, two formulas, or a number and a formula. -/
inductive Entry where
  | run
  | functions
  | formulas
  | numberAndFormula
  deriving DecidableEq

namespace Entry

/-- The name under which an entry point is called. -/
def name : Entry → String
  | run => "Comparison.__call__"
  | functions => "compare"
  | formulas => "compare_formulas"
  | numberAndFormula => "compare_number_and_formula"

/-- The names of the arguments that have their places. -/
def arguments : Entry → List String
  | run => ["self", "f1", "f2"]
  | functions => ["f1", "f2"]
  | formulas => ["formula1", "formula2"]
  | numberAndFormula => ["variable_count", "function_number", "formula"]

/-- Refuse the first option that bears the name of one of the arguments of the entry point,
which would give that argument a second value. -/
def check (entry : Entry) : List (String × Value) → Except Fault Unit
  | [] => .ok ()
  | field :: fields =>
    if entry.arguments.contains field.1 then .error (.repeatedArgument entry.name field.1)
    else entry.check fields

/-- Nothing is refused exactly if no option bears the name of an argument of the entry
point. -/
theorem check_eq_ok_iff (entry : Entry) (fields : List (String × Value)) :
    entry.check fields = .ok () ↔ ∀ field ∈ fields, field.1 ∉ entry.arguments := by
  induction fields with
  | nil => simp [check]
  | cons field fields ih =>
    by_cases taken : field.1 ∈ entry.arguments
    · simp [check, taken]
    · simp [check, taken, ih]

/-- Compare two **functions**. The options are passed on to the run, so that they must not
bear the names of its arguments either. -/
def compareFunctions (f g : BooleanFunction) (fields : List (String × Value)) :
    Except Fault Verdict := do
  functions.check fields
  run.check fields
  compare (some f) (some g) fields

/-- Compare the functions described by **two formulas**. A formula from which no function can
be made is no fault of the caller's: it gives a failed comparison. -/
def compareFormulas (left right : Value) (fields : List (String × Value)) :
    Except Fault Verdict := do
  formulas.check fields
  match describedByFormulas left right with
  | .error fault => return unmade " formulas" fault
  | .ok (f, g) => compareFunctions f g fields

/-- Compare the function with a **number** and the function described by a **formula**. If
either cannot be made, the comparison has failed. -/
def compareNumberAndFormula (count number formula : Value) (fields : List (String × Value)) :
    Except Fault Verdict := do
  numberAndFormula.check fields
  match describedByNumber count number formula with
  | .error fault => return unmade "" fault
  | .ok (f, g) => compareFunctions f g fields

end Entry

end Junctor
