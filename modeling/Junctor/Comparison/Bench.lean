import Junctor.Comparison.Entry

/-!
# Comparisons That Share a Desk

Comparisons have numbers and are called one after the other. A call leaves its statistics
with the comparison that was called, and the loggers to the calls after it, whichever
comparison these are of. A call that is refused leaves everything as it was.

## Main results

* `Bench.call`: the answer to a call, and the bench after it.
* `Bench.after`: the bench after some calls.
-/

namespace Junctor

/-- What a comparison is **called with**: two functions, of which either may be missing, and
options given by name. -/
structure Request where
  /-- The function to compare. -/
  left : Option BooleanFunction
  /-- The function to compare it with. -/
  right : Option BooleanFunction
  /-- The options. -/
  fields : List (String × Value)

/-- Any number of **comparisons**, together with the loggers that all of them share. -/
structure Bench where
  /-- The loggers. -/
  desk : Desk
  /-- The comparisons, by their numbers. -/
  comparison : Nat → Comparison

namespace Bench

/-- A **call** of one of the comparisons on a bench, with the clock that goes while it runs. -/
structure Call where
  /-- The number of the comparison. -/
  number : Nat
  /-- The clock of the run. -/
  clock : Nat → Float
  /-- What it is called with. -/
  request : Request

/-- A bench at which nothing has been called, so that no comparison has any statistics yet. -/
def fresh (desk : Desk) : Bench := { desk, comparison := fun _ => {} }

/-- The answer to a **call**, and the bench after it: the loggers as the run left them, and
the comparison that was called with new statistics, while the others are as they were. -/
def call (bench : Bench) (call : Call) : Except Fault Verdict × Bench :=
  match Entry.run.check call.request.fields with
  | .error fault => (.error fault, bench)
  | .ok () =>
    let run := Comparison.run bench.desk call.clock call.request.left call.request.right
      call.request.fields
    (run.outcome,
      { desk := run.desk
        comparison := fun number =>
          if number = call.number then run.comparison else bench.comparison number })

/-- The bench **after** some calls, one after the other, whatever came of each of them. -/
def after (bench : Bench) (calls : List Call) : Bench :=
  calls.foldl (fun bench call => (bench.call call).2) bench

end Bench

end Junctor
