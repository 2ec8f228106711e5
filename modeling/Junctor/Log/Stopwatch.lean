import Junctor.Fault

/-!
# Stopwatches

A stopwatch tells the time that has gone by since it was last set back. The time is an
argument of every operation, for the clock belongs to the caller.

## Main results

* `timeBetween`, `timeText`: the difference of two times and the text of a time.
* `Stopwatch.read`: the time gone by; `Stopwatch.restart`: setting back.
-/

namespace Junctor

/-- The **difference** of two times, which fails if an integer beyond the floats takes part. -/
def timeBetween (start now : Number.Scalar) : Except Fault Number.Scalar :=
  match now.sub? start with
  | some elapsed => .ok elapsed
  | none => .error .integerBeyondFloats

/-- A time with **six digits** after the point, which are those of the nearest float. -/
def timeText (time : Number.Scalar) : Except Fault String :=
  if time.isBeyondFloats then .error .integerBeyondFloats
  else .ok (Number.sixPlaces time.toFloat)

/-- A **stopwatch**, which knows nothing but the time at which it was last set back. -/
structure Stopwatch where
  /-- When the stopwatch was last set back. -/
  started : Number.Scalar

namespace Stopwatch

/-- The time gone by at the time `now`, unless the difference of the two times has no value. -/
def read (watch : Stopwatch) (now : Number.Scalar) : Except Fault Number.Scalar :=
  timeBetween watch.started now

/-- Set a stopwatch back, so that it counts from the time `now`. -/
def restart (_ : Stopwatch) (now : Number.Scalar) : Stopwatch := { started := now }

end Stopwatch

end Junctor
