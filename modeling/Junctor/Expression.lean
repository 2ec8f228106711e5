import Junctor.BooleanFunction
import Junctor.Formula

/-!
# Boolean Expressions

An expression is the form in which formulas and functions are handed to an algebra system:
conjunction and disjunction take any number of parts. Formulas are exported sign by sign, and
functions as the disjunction of their minterms.

## Main results

* `Expression.eval`: the truth value of an expression.
* `Expression.table`: the column of its truth table.
* `Formula.toExpression`, `BooleanFunction.toExpression`: the two exports.
* `Formula.eval_toExpression`: the export of a formula means what the formula means.
-/

namespace Junctor

/-- A **Boolean expression**, as it is handed to an algebra system. Conjunctions and
disjunctions may have any number of parts, none included. -/
inductive Expression where
  | symbol (name : String)
  | constant (value : Bool)
  | not (operand : Expression)
  | all (parts : List Expression)
  | any (parts : List Expression)
  | xor (left right : Expression)
  | implies (left right : Expression)
  | iff (left right : Expression)

namespace Expression

/-! ### Meaning -/

mutual

/-- The truth value of an expression. A conjunction without parts is true, and a disjunction
without parts is false. -/
def eval (valuation : String → Bool) : Expression → Bool
  | symbol name => valuation name
  | constant value => value
  | not a => !a.eval valuation
  | all parts => evalAll valuation parts
  | any parts => evalAny valuation parts
  | xor a b => a.eval valuation != b.eval valuation
  | implies a b => !a.eval valuation || b.eval valuation
  | iff a b => a.eval valuation == b.eval valuation

/-- Are all parts true? -/
def evalAll (valuation : String → Bool) : List Expression → Bool
  | [] => true
  | a :: parts => a.eval valuation && evalAll valuation parts

/-- Is any part true? -/
def evalAny (valuation : String → Bool) : List Expression → Bool
  | [] => false
  | a :: parts => a.eval valuation || evalAny valuation parts

end

/-- The column of the truth table of an expression over some variables, in the order of the
rows, where a symbol that is not among them counts as false. -/
def table (names : List String) (expression : Expression) : List Bool :=
  (List.range (2 ^ names.length)).map fun (index : Nat) =>
    let bindings := names.zip (rowValues index names.length)
    expression.eval fun name => (bindings.lookup name).getD false

/-- The expression for a connective between two others; conjunctions and disjunctions made in
this way have two parts. -/
def join : Connective → Expression → Expression → Expression
  | .and, a, b => all [a, b]
  | .or, a, b => any [a, b]
  | .xor, a, b => xor a b
  | .implies, a, b => implies a b
  | .iff, a, b => iff a b

/-- The expression for a connective has its truth table. -/
@[simp] theorem eval_join (valuation : String → Bool) (c : Connective) (a b : Expression) :
    (join c a b).eval valuation = c.apply (a.eval valuation) (b.eval valuation) := by
  cases c <;> simp [join, eval, evalAll, evalAny, Connective.apply]

end Expression

/-! ### Exports -/

/-- The export of a formula, in which every connective becomes the operation of the same
name. -/
def Formula.toExpression : Formula → Expression
  | var name => .symbol name
  | const value => .constant value
  | not a => .not a.toExpression
  | binary c a b => .join c a.toExpression b.toExpression

/-- The export of a formula means what the formula means, since each connective has the truth
table of the operation it becomes. -/
@[simp] theorem Formula.eval_toExpression (valuation : String → Bool) (f : Formula) :
    f.toExpression.eval valuation = f.eval valuation := by
  induction f with
  | var name => simp [toExpression, Expression.eval, eval]
  | const value => simp [toExpression, Expression.eval, eval]
  | not a ih => simp [toExpression, Expression.eval, eval, ih]
  | binary c a b ihA ihB => simp [toExpression, eval, ihA, ihB]

namespace BooleanFunction

/-- The conjunction of literals that is true in one row only. -/
def minterm (names : List String) (values : List Bool) : Expression :=
  .all ((names.zip values).map fun (name, value) =>
    if value then .symbol name else .not (.symbol name))

/-- The export of a function: the disjunction of the minterms of those rows in which the
result is true. -/
def toExpression (f : BooleanFunction) : Expression :=
  .any ((f.results.zipIdx.filter (·.1)).map fun (_, index) =>
    minterm f.names (rowValues index f.variableCount))

end BooleanFunction

end Junctor
