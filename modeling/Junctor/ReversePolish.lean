import Junctor.Token

/-!
# Reverse Polish Order

`toReversePolish` brings the tokens of a formula from the usual order, in which a binary
operator stands between its operands, into the order in which every operator follows its
operands.

A yard holds the tokens put out so far and a stack of opening parentheses and operators that
wait. An operand is put out at once. An operator first releases the operators on top of the
stack that bind at least as tightly as itself, so that operators of one precedence group to
the left, and then waits on the stack. A closing parenthesis releases all operators down to
its opening one.

## Main results

* `Yard.step`: what one token does; `Yard.finish`: what is put out at the end.
* `toReversePolish`: the whole reordering.
* `release_append`: what is released goes on top of what was put out before.
-/

namespace Junctor

/-- What **waits** on the stack of a yard: an operator for its scope to end, or a parenthesis
for the one that closes it. -/
inductive Pending where
  | paren
  | operator (op : Operator)
  deriving DecidableEq

/-- The **state** between two tokens: what has been put out, the latest first, and what
waits, the top first. -/
structure Yard where
  /-- The tokens put out, the latest first. -/
  output : List Token := []
  /-- What waits, the top of the stack first. -/
  stack : List Pending := []

namespace Yard

/-- Release the operators on top of the stack as long as `leaves` holds of them. -/
def release (leaves : Operator → Bool) : List Token → List Pending → List Token × List Pending
  | output, .operator op :: stack =>
    if leaves op then release leaves (.operator op :: output) stack
    else (output, .operator op :: stack)
  | output, stack => (output, stack)

/-- What **one token** does to a yard. An operand comes out at once; an operator first lets
those come out that bind at least as tightly, and then waits itself; a closing parenthesis
lets out all that waits down to the opening one. -/
def step (yard : Yard) : Token → Except FormulaError Yard
  | .var name => .ok { yard with output := .var name :: yard.output }
  | .const value => .ok { yard with output := .const value :: yard.output }
  | .openParen => .ok { yard with stack := .paren :: yard.stack }
  | .closeParen =>
    match release (fun _ => true) yard.output yard.stack with
    | (output, .paren :: stack) => .ok { output, stack }
    | _ => .error .missingOpening
  | .operator op =>
    let (output, stack) := release (op.precedence ≤ ·.precedence) yard.output yard.stack
    .ok { output, stack := .operator op :: stack }
  | .unknown text => .error (.unknownToken text)

/-- The yard after some tokens, unless it refuses one of them. -/
def run (yard : Yard) (tokens : List Token) : Except FormulaError Yard := tokens.foldlM step yard

/-- Everything put out **at the end**, in order, if no parenthesis is left open. -/
def finish (yard : Yard) : Except FormulaError (List Token) :=
  match release (fun _ => true) yard.output yard.stack with
  | (output, []) => .ok output.reverse
  | _ => .error .missingClosing

/-- What is released goes **on top** of what was put out before. -/
theorem release_append (leaves : Operator → Bool) (output earlier : List Token)
    (stack : List Pending) :
    release leaves (output ++ earlier) stack =
      ((release leaves output stack).1 ++ earlier, (release leaves output stack).2) := by
  fun_induction release leaves output stack with
  | case1 output op stack leaves ih => rw [release, if_pos leaves, ← List.cons_append, ih]
  | case2 output op stack stays => rw [release, if_neg stays]
  | case3 output stack noOperator => rw [release.eq_2 _ _ _ noOperator]

end Yard

/-- The tokens of a formula **in reverse Polish order**, once all of them have been read and
whatever still waits has come out. -/
def toReversePolish (tokens : List Token) : Except FormulaError (List Token) := do
  (← Yard.run {} tokens).finish

end Junctor
