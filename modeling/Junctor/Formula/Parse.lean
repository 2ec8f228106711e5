import Junctor.Formula
import Junctor.ReversePolish
import Junctor.Token.Lexer

/-!
# Reading Formulas

A formula is built from its tokens in reverse Polish order on a stack of formulas, whose top
is the head of the list. `Formula.parse` reads a text: its tokens are brought into that order
first.

## Main results

* `Formula.ofReversePolish`: the formula with given tokens.
* `Formula.parse`: the formula with a given text.
-/

namespace Junctor.Formula

/-- What one token does to the stack of formulas: an operand is put on top, and an operator
takes its operands from there and puts the formula back that it makes of them. -/
def buildStep (stack : List Formula) : Token → Except FormulaError (List Formula)
  | .var name => .ok (.var name :: stack)
  | .const value => .ok (.const value :: stack)
  | .operator .negation =>
    match stack with
    | a :: stack => .ok (.not a :: stack)
    | _ => .error (.lacksOperands Operator.negation.symbol)
  | .operator (.binary c) =>
    match stack with
    | b :: a :: stack => .ok (.binary c a b :: stack)
    | _ => .error (.lacksOperands c.symbol)
  | t => .error (.unknownToken t.text)

/-- The stack of formulas after some tokens, the latest formula on top. -/
def build (stack : List Formula) (tokens : List Token) : Except FormulaError (List Formula) :=
  tokens.foldlM buildStep stack

/-- The formula whose tokens are given in reverse Polish order, which has to be the only one
on the stack when all of them are read. -/
def ofReversePolish (tokens : List Token) : Except FormulaError Formula := do
  match ← build [] tokens with
  | [formula] => return formula
  | stack => throw (.subexpressionsRemain stack.length)

/-- The formula **whose text** is given: the text is split into tokens, these are put in
reverse Polish order, and from that the tree is built. -/
def parse (text : String) : Except FormulaError Formula := do
  ofReversePolish (← toReversePolish (← tokens text))

end Junctor.Formula
