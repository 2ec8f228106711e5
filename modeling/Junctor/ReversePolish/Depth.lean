import Junctor.ReversePolish

/-!
# Counting Operands

Tokens in reverse Polish order make sense if every operator finds its operands and one value is
left at the end. `checkDepth` decides this with nothing but the number of values on the stack.

## Main results

* `Depth.step`: how a token changes the number of values.
* `checkDepth`: the check of a whole token list.
-/

namespace Junctor

/-- The number of operands that goes with an arity. -/
def Arity.operands : Arity → Nat
  | unary => 1
  | binary => 2

/-- How a token **changes the depth** of the stack: an operator takes its operands away and
leaves one value. -/
def Depth.step (depth : Nat) : Token → Except FormulaError Nat
  | .var _ => .ok (depth + 1)
  | .const _ => .ok (depth + 1)
  | .operator op =>
    if depth < op.arity.operands then .error (.lacksOperands op.symbol)
    else .ok (depth - (op.arity.operands - 1))
  | t => .error (.unknownToken t.text)

/-- The depth after some tokens, unless an operator finds too few operands. -/
def Depth.run (depth : Nat) (tokens : List Token) : Except FormulaError Nat :=
  tokens.foldlM Depth.step depth

/-- Check that every operator **finds its operands** and that one value remains, by counting
values without computing any. -/
def checkDepth (tokens : List Token) : Except FormulaError Unit := do
  let depth ← Depth.run 0 tokens
  if depth = 1 then return () else throw (.valuesRemain depth)

end Junctor
