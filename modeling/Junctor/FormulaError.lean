/-!
# Errors in Formulas

Everything that can be wrong with the text of a formula, with its tokens in either order, or
with an assignment that leaves a variable out. Each error is a cause with the data that its
message names.

## Main results

* `FormulaError.message`: the message of each cause.
-/

namespace Junctor

/-- What is **wrong with a formula**, from its characters to its tree, with the token or the
count that the message names. -/
inductive FormulaError where
  /-- The text holds nothing but blanks. -/
  | empty
  /-- A closing parenthesis of the text closes nothing. -/
  | unexpectedClosing
  /-- A closing token comes without an opening one. -/
  | missingOpening
  /-- An opening parenthesis is never closed. -/
  | missingClosing
  /-- The token is of no kind. -/
  | unknownKind (token : String)
  /-- The token has no place in a formula. -/
  | unknownToken (token : String)
  /-- The token cannot be evaluated. -/
  | unknownOperator (token : String)
  /-- The variable has no value. -/
  | unknownVariable (name : String)
  /-- The operator finds too few operands. -/
  | lacksOperands (operator : String)
  /-- Evaluation ends with another number of values than one. -/
  | valuesRemain (count : Nat)
  /-- Building ends with another number of formulas than one. -/
  | subexpressionsRemain (count : Nat)
  deriving DecidableEq

/-- The message for a user, which names the token that is at fault where there is one. -/
def FormulaError.message : FormulaError → String
  | empty => "formula must not be empty"
  | unexpectedClosing => "unbalanced parentheses: unexpected closing parenthesis"
  | missingOpening => "unbalanced parentheses: missing opening parenthesis"
  | missingClosing => "unbalanced parentheses: missing closing parenthesis"
  | unknownKind token => "unknown token type: " ++ token
  | unknownToken token => "unknown token: " ++ token
  | unknownOperator token => "unknown operator: " ++ token
  | unknownVariable name => "unknown variable: " ++ name
  | lacksOperands operator => "insufficient operands for " ++ operator
  | valuesRemain count =>
    "malformed expression: " ++ toString count ++ " values remain on the stack"
  | subexpressionsRemain count =>
    "cannot build expression tree: " ++ toString count ++ " subexpressions remain"

/-- No message is empty. -/
theorem FormulaError.message_ne_empty (e : FormulaError) : e.message ≠ "" := by
  cases e <;> unfold message <;> simp

end Junctor
