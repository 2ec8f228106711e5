import Junctor.Token.Lexer

/-!
# The Cost of Normal Forms

The cost of a function is read off its two perfect normal forms: the literals of both, the
conjunctions of the disjunctive form and the disjunctions of the conjunctive one.

## Main results

* `Cost.ofForms`: the cost of two normal forms.
* `Cost.total`: the sum of the three numbers.
-/

namespace Junctor

/-- The **cost** of a pair of normal forms, one of each kind: literals are counted in both,
and connectives where they join literals to terms. -/
structure Cost where
  /-- The number of literals in both forms. -/
  literals : Nat
  /-- The number of conjunctions in the disjunctive form. -/
  conjunctions : Nat
  /-- The number of disjunctions in the conjunctive form. -/
  disjunctions : Nat
  deriving DecidableEq

namespace Cost

/-- The number of literals in a normal form, of which a blank one has none. -/
def countLiterals (form : String) : Except FormulaError Nat :=
  if Text.isBlankText form then .ok 0
  else do return (← tokens form).countP Token.isVariable

/-- The cost of a disjunctive and a conjunctive **form**, counted in their texts. The
literals are found by splitting the texts into tokens, which is what can go wrong. -/
def ofForms (disjunctive conjunctive : String) : Except FormulaError Cost := do
  let left ← countLiterals disjunctive
  let right ← countLiterals conjunctive
  return {
    literals := left + right
    conjunctions := disjunctive.toList.count '∧'
    disjunctions := conjunctive.toList.count '∨' }

/-- The total cost, in which a literal and a connective count alike. -/
def total (cost : Cost) : Nat := cost.literals + cost.conjunctions + cost.disjunctions

/-- The cost in words. -/
def describe (cost : Cost) : String :=
  "literals: " ++ toString cost.literals ++ ", conjunctions: " ++ toString cost.conjunctions ++
    ", disjunctions: " ++ toString cost.disjunctions ++ ", total cost: " ++ toString cost.total

end Cost

end Junctor
