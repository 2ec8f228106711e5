/-!
# Complexity Levels

The number of variables tells how costly a function is, for its truth table doubles with each
of them. Callers get a level and a word of warning.

## Main results

* `Complexity.ofVariableCount`: the level of a number of variables.
* `Complexity.warning`: the warning that goes with a level.
-/

namespace Junctor

/-- How **costly** it is to work with a function, in five levels. All but the lowest come
with a warning. -/
inductive Complexity where
  | low
  | medium
  | high
  | veryHigh
  | critical
  deriving DecidableEq

namespace Complexity

/-- The level of a number of variables, where a truth table doubles in size with each of
them. -/
def ofVariableCount (count : Int) : Complexity :=
  if count ≤ 4 then low
  else if count ≤ 6 then medium
  else if count ≤ 8 then high
  else if count ≤ 11 then veryHigh
  else critical

/-- The name of a level. -/
def name : Complexity → String
  | low => "LOW"
  | medium => "MEDIUM"
  | high => "HIGH"
  | veryHigh => "VERY_HIGH"
  | critical => "CRITICAL"

/-- The rank of a level, from 1 to 5. -/
def rank : Complexity → Nat
  | low => 1
  | medium => 2
  | high => 3
  | veryHigh => 4
  | critical => 5

/-- The warning to a caller, which is empty on the lowest level and sharper on each of the
others. -/
def warning : Complexity → String
  | low => ""
  | medium => "note: medium computational complexity"
  | high => "warning: high computational complexity (O(2^n))"
  | veryHigh => "strong warning: very high computational complexity"
  | critical => "critical warning: exponential complexity may render the computation unresponsive"

end Complexity

end Junctor
