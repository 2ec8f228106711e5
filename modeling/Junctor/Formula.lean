import Junctor.Names
import Junctor.Token

/-!
# Formulas as Trees

A formula is a variable, a constant, a negation or two formulas under a binary connective.
This module has its truth value, its variables, its tokens in reverse Polish order and its
printed form.

In print every binary formula stands in parentheses. A negated formula that is itself binary
or a negation gets a pair of its own, because two adjacent negations cannot be read.

## Main results

* `Formula.eval`: the truth value under an assignment of all variables.
* `Formula.postorder`: the tokens in reverse Polish order.
* `Formula.print`: the printed form.
* `Formula.eval_congr`: only the variables of a formula matter for its truth value.
* `Formula.eval_subst`: the truth value after formulas were put in place of variables.
-/

namespace Junctor

/-- A **formula** as a tree, where a connective stands above its two operands. -/
inductive Formula where
  | var (name : String)
  | const (value : Bool)
  | not (operand : Formula)
  | binary (connective : Connective) (left right : Formula)
  deriving DecidableEq

namespace Formula

/-! ### Meaning -/

/-- The **truth value** of a formula where the variables have truth values. -/
def eval (valuation : String → Bool) : Formula → Bool
  | var name => valuation name
  | const value => value
  | not a => !a.eval valuation
  | binary c a b => c.apply (a.eval valuation) (b.eval valuation)

/-- The variables of a formula, sorted, each of them once however often it occurs. -/
def names : Formula → List String
  | var name => [name]
  | const _ => []
  | not a => a.names
  | binary _ a b => unionNames a.names b.names

/-- **Only the variables that occur matter** for the truth value, so that valuations which
agree on them cannot be told apart. -/
theorem eval_congr {v w : String → Bool} {f : Formula}
    (agree : ∀ x ∈ f.names, v x = w x) : f.eval v = f.eval w := by
  induction f with
  | var name => exact agree name (by simp [names])
  | const value => rfl
  | not a ih => simp only [eval, ih agree]
  | binary c a b ihA ihB =>
    have left : a.eval v = a.eval w := ihA fun x mem => agree x (by simp [names, mem])
    have right : b.eval v = b.eval w := ihB fun x mem => agree x (by simp [names, mem])
    simp only [eval, left, right]

/-- A formula with formulas in place of its variables, all of which are replaced at once. -/
def subst (images : String → Formula) : Formula → Formula
  | var name => images name
  | const value => .const value
  | not a => .not (a.subst images)
  | binary c a b => .binary c (a.subst images) (b.subst images)

/-- **Substitution is a change of the valuation**: with formulas in place of variables, a
formula has the truth value that it has where the variables have the values of these
formulas. -/
theorem eval_subst (images : String → Formula) (valuation : String → Bool) (f : Formula) :
    (f.subst images).eval valuation = f.eval fun name => (images name).eval valuation := by
  induction f with
  | var name => rfl
  | const value => rfl
  | not a ih => simp only [subst, eval, ih]
  | binary c a b ihA ihB => simp only [subst, eval, ihA, ihB]

/-! ### Tokens and text -/

/-- The **tokens** of a formula in reverse Polish order: an operator after its operands. -/
def postorder : Formula → List Token
  | var name => [.var name]
  | const value => [.const value]
  | not a => a.postorder ++ [.operator .negation]
  | binary c a b => a.postorder ++ b.postorder ++ [.operator (.binary c)]

/-- Does a negation sign before the formula need parentheses in between? -/
def isCompound : Formula → Bool
  | var _ => false
  | const _ => false
  | not _ => true
  | binary _ _ _ => true

/-- The **printed form** of a formula. A binary formula is in parentheses, and so is the
operand of a negation unless it is a variable or a constant, which makes the form unambiguous
without any precedence. -/
def print : Formula → String
  | var name => name
  | const value => Token.constantText value
  | not a => if a.isCompound then "¬(" ++ a.print ++ ")" else "¬" ++ a.print
  | binary c a b => "(" ++ a.print ++ " " ++ c.symbol ++ " " ++ b.print ++ ")"

end Formula

end Junctor
