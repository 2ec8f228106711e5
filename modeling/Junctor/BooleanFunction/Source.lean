import Junctor.BooleanFunction

/-!
# Sources of Functions

A function is asked for by a formula or by its number, where any values may be given, or it
is left out.

## Main results

* `Source.function`: the function asked for, or what is wrong with the request.
-/

namespace Junctor

/-- A **request** for a function, by a formula or by a count of variables and a number, where
a request for nothing at all stands for a function that is missing. -/
inductive Source where
  | formula (text : Value)
  | numbered (count number : Value)
  | none

/-- The function described by a formula that may be given as any value. -/
def BooleanFunction.ofFormulaValue (formula : Value) : Except Fault BooleanFunction := do
  ofFormula (← formula.formulaText)

/-- The function that is asked for, if one is, or what is wrong with the request. -/
def Source.function : Source → Except Fault (Option BooleanFunction)
  | formula text => some <$> BooleanFunction.ofFormulaValue text
  | numbered count number => some <$> BooleanFunction.ofValues count number
  | none => .ok Option.none

end Junctor
