/-!
# Verdicts

Two functions are found to be equivalent, or not, or the comparison fails. Functions that are
not equivalent differ at an assignment, and its text is the counterexample; it is empty if
there are no variables.

## Main results

* `Verdict.message`, `Verdict.counterexample`, `Verdict.describe`: the texts of a verdict.
-/

namespace Junctor

/-- The **outcome** of a comparison: the functions are equivalent, they differ at an
assignment, or the comparison has failed for some reason. -/
inductive Verdict where
  | equivalent
  | notEquivalent (counterexample : String)
  | failed (reason : String)
  deriving DecidableEq

namespace Verdict

/-- The name of the type of a verdict. -/
def name : Verdict → String
  | equivalent => "EQUIVALENT"
  | notEquivalent _ => "NOT_EQUIVALENT"
  | failed _ => "ERROR"

/-- Are the functions equivalent? -/
def isEquivalent : Verdict → Bool
  | equivalent => true
  | notEquivalent _ => false
  | failed _ => false

/-- The counterexample of a verdict, which is the empty text where there is none. -/
def counterexample : Verdict → String
  | equivalent => ""
  | notEquivalent counterexample => counterexample
  | failed _ => ""

/-- The message for a user, in which a failure is reported by its reason, or in general terms
if no reason is given. -/
def message : Verdict → String
  | equivalent => "the functions are equivalent"
  | notEquivalent _ => "the functions are not equivalent"
  | failed reason => if reason = "" then "comparison of the functions failed" else reason

/-- The verdict in words: its message, and behind it the counterexample unless that is
empty. -/
def describe (verdict : Verdict) : String :=
  if verdict.counterexample = "" then verdict.message
  else verdict.message ++ "; counterexample: " ++ verdict.counterexample

end Verdict

end Junctor
