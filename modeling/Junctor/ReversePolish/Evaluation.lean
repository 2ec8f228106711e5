import Junctor.ReversePolish

/-!
# Evaluation

Tokens in reverse Polish order are evaluated on a stack of truth values, whose top is the
head of the list. The variables get their values from a valuation, which may leave some of
them out.

## Main results

* `Evaluation.step`: what one token does to the stack.
* `evaluate`: the value of a whole token list.
-/

namespace Junctor

/-- A valuation gives truth values to variables. -/
abbrev Valuation := String → Option Bool

/-- What **one token** does to the stack of values, where the operand on the right is on
top. -/
def Evaluation.step (valuation : Valuation) (stack : List Bool) :
    Token → Except FormulaError (List Bool)
  | .var name =>
    match valuation name with
    | some value => .ok (value :: stack)
    | none => .error (.unknownVariable name)
  | .const value => .ok (value :: stack)
  | .operator .negation =>
    match stack with
    | a :: stack => .ok ((!a) :: stack)
    | _ => .error (.lacksOperands Operator.negation.symbol)
  | .operator (.binary c) =>
    match stack with
    | b :: a :: stack => .ok (c.apply a b :: stack)
    | _ => .error (.lacksOperands c.symbol)
  | t => .error (.unknownOperator t.text)

/-- The stack after some tokens, unless one of them cannot be evaluated. -/
def Evaluation.run (valuation : Valuation) (stack : List Bool) (tokens : List Token) :
    Except FormulaError (List Bool) :=
  tokens.foldlM (Evaluation.step valuation) stack

/-- The **value** of tokens in reverse Polish order, which has to be the only one on the
stack in the end. -/
def evaluate (valuation : Valuation) (tokens : List Token) : Except FormulaError Bool := do
  match ← Evaluation.run valuation [] tokens with
  | [value] => return value
  | stack => throw (.valuesRemain stack.length)

end Junctor
