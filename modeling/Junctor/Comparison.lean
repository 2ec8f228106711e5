import Junctor.BooleanFunction.Source
import Junctor.Comparison.Options
import Junctor.Comparison.Verdict
import Junctor.Log.Logger
import Junctor.Names

/-!
# Comparing Functions

Two functions are compared at all assignments of the union of their variables, in the order
of the rows of a truth table, up to the first at which they differ. The number of variables
is bounded, and a function that is given by its number has no value where a variable is not
its own.

A comparison keeps a log. While it runs its logger has the level of the options, and at the
end the level that was in force at the start. Progress goes through a rate limiter, which all
comparisons share: a run stores the rate of its options there before it does anything else.

A run ends in a verdict, whatever is wrong with the functions. Only options that cannot be
written out break it off.

## Main results

* `Search.difference`: the search for the first difference.
* `Comparison.run`: a whole comparison, with its statistics and its log.
* `compare`: the answer about two functions.
* `describedByFormulas`, `describedByNumber`, `unmade`: functions that are described, and the
  verdict if one of them cannot be made.
-/

namespace Junctor

/-! ### The log of a comparison -/

/-- The **loggers** that comparisons share. They outlive a run, so that what one run leaves
behind in them is there when the next one starts. -/
structure Desk where
  /-- The level of the logger. -/
  level : Int
  /-- The levels of the loggers above it, the nearest first. -/
  above : List Int
  /-- What limits the records of progress. Its rate is that of the options of the last run,
  whatever was given there. -/
  limiter : RateLimiter Number.Scalar Value

namespace Desk

/-- The loggers before any comparison: the level is that of warnings. -/
def initial : Desk :=
  { level := Level.warning, above := Logger.root, limiter := .starting (.float 0) (.float 0) }

/-- The main logger. -/
def mainLogger (desk : Desk) : Logger Number.Scalar Value :=
  { level := desk.level, above := desk.above, limiter := none }

/-- The logger for progress, which has no level of its own and follows the main one. -/
def progressLogger (desk : Desk) : Logger Number.Scalar Value :=
  { level := Level.notSet, above := desk.level :: desk.above, limiter := some desk.limiter }

/-- The desk of a run as it is left: the logger has the level that was in force on the desk at
which the run started. -/
def released (desk start : Desk) : Desk := { desk with level := start.mainLogger.levelInForce }

end Desk

/-- The **state** of a comparison that runs: what it may change, and what it has counted and
reported so far. -/
structure Session where
  /-- The loggers. -/
  desk : Desk
  /-- The records that have passed, the latest first. -/
  records : List Record
  /-- The number of assignments that have come up. -/
  checked : Nat

namespace Session

/-- The session of a run that begins: the logger gets the level of the options, and their
rate is stored in the limiter. -/
def begun (desk : Desk) (level : Int) (rate : Value) : Session :=
  { desk := { desk with level, limiter := desk.limiter.setRate rate }, records := [], checked := 0 }

/-- Note something in the main log. -/
def note (session : Session) (level : Int) (text : String) : Session :=
  if session.desk.mainLogger.admits { level, text } then
    { session with records := { level, text } :: session.records }
  else session

/-- Report progress at the time `now`. Only a report that gets as far as the limiter of the
desk asks for its rate. -/
def report (session : Session) (now : Float) (text : String) : Except Fault Session :=
  let record : Record := { level := Level.info, text }
  if !session.desk.progressLogger.admits record then .ok session
  else do
    let (passed, limiter) ← session.desk.limiter.pass? (.float now)
    return { session with
      desk := { session.desk with limiter }
      records := if passed then record :: session.records else session.records }

/-- The end of a search that cannot go on: an error in a formula or an argument is an ordinary
failure, anything else is noted in the log. -/
def stop (session : Session) (fault : Fault) : Verdict × Session :=
  match fault with
  | .formula cause => (.failed ("cannot compare functions: " ++ cause.message), session)
  | .argument cause => (.failed ("cannot compare functions: " ++ cause.message), session)
  | fault =>
    (.failed ("unexpected error while comparing functions: " ++ fault.message),
      session.note Level.debug "unexpected error")

end Session

/-! ### The search -/

/-- What a search **works on**, none of which changes while it lasts: the two functions,
their variables, and a clock that is read once for each assignment. -/
structure Search where
  /-- The function to compare. -/
  left : BooleanFunction
  /-- The function to compare it with. -/
  right : BooleanFunction
  /-- The variables of both functions, sorted. -/
  names : List String
  /-- The clock: the time at which an assignment comes up, by its number from 1 on. -/
  clock : Nat → Float

namespace Search

/-- The number of assignments in all. -/
def total (search : Search) : Nat := 2 ^ search.names.length

/-- Do the functions agree at an assignment? The left one is evaluated first. -/
def agreeAt (search : Search) (assignment : Assignment) : Except Fault Bool := do
  let left ← search.left.evaluate assignment
  let right ← search.right.evaluate assignment
  return left == right

/-- The search for the **first difference** among the last `remaining` assignments. Each of
them is counted first, then reported on, and only then are the functions evaluated there; a
fault in any of this ends the search. -/
def difference (search : Search) : Nat → Session → Verdict × Session
  | 0, session => (.equivalent, session)
  | remaining + 1, session =>
    let session := { session with checked := session.checked + 1 }
    let progress := toString session.checked ++ " of " ++ toString search.total ++
      " assignments checked"
    match session.report (search.clock session.checked) progress with
    | .error fault => session.stop fault
    | .ok session =>
      let assignment :=
        .ofTruth (assignmentAt search.names (search.total - (remaining + 1)))
      match search.agreeAt assignment with
      | .error fault => session.stop fault
      | .ok true => search.difference remaining session
      | .ok false => (.notEquivalent assignment.describe, session)

end Search

/-! ### Comparisons -/

/-- A **comparison**, which holds the options, the variables and the count of its last run,
and keeps them until the next one. -/
structure Comparison where
  /-- The options of the run. -/
  options : Options := {}
  /-- The variables of both functions, sorted. -/
  names : List String := []
  /-- The number of assignments that came up. -/
  checked : Nat := 0
  /-- Has the time of a run been taken? -/
  timed : Bool := false

namespace Comparison

/-- The outcome of a **run**, with all that it leaves behind. A run that is broken off has no
verdict, but its statistics and the loggers are there all the same. -/
structure Run where
  /-- The verdict, unless the run is broken off by a fault. -/
  outcome : Except Fault Verdict
  /-- The statistics. -/
  comparison : Comparison
  /-- The loggers afterwards. -/
  desk : Desk
  /-- The records that have passed, in order. -/
  records : List Record

/-- The verdict on two functions, of which either may be missing, with the union of their
variables. -/
def search (options : Options) (clock : Nat → Float) (f g : Option BooleanFunction)
    (session : Session) : List String × (Verdict × Session) :=
  match f, g with
  | some f, some g =>
    let names := unionNames (sortedNames f.names) (sortedNames g.names)
    let search : Search := { left := f, right := g, names, clock }
    match options.exceededBy names.length with
    | .error fault => (names, session.stop fault)
    | .ok true =>
      (names, .failed ("too many variables (" ++ toString names.length ++
        ") for comparison, at most " ++ options.maxVariables.plain ++ " are supported"), session)
    | .ok false =>
      (names, search.difference search.total (session.note Level.debug
        ("enumerating " ++ toString search.total ++ " assignments of " ++
          ", ".intercalate names)))
  | _, _ => ([], session.stop (.noMember (Value.typeName .null) "variable_names"))

/-- A run with options that cannot be used: nothing happens but that its time is taken. -/
def refuse (desk : Desk) (options : Options) (cause : OptionFault) : Run :=
  { outcome := .ok (.failed ("invalid comparison options: " ++ cause.message))
    comparison := { options, timed := true }
    desk
    records := [] }

/-- **Compare** two functions, of which either may be missing, with options given by name.
The first thing that a run notes in its log is a listing of its options, and it is written
even if nobody reads it. Options without a listing break the run off: its time is not taken,
but the level of the logger is put back all the same. -/
def run (desk : Desk) (clock : Nat → Float) (f g : Option BooleanFunction)
    (fields : List (String × Value)) : Run :=
  match Options.ofFields fields with
  | .error cause => refuse desk {} cause
  | .ok options =>
    match options.level with
    | .error cause => refuse desk options cause
    | .ok level =>
      let start := Session.begun desk level options.logRate
      match options.listing with
      | .error fault =>
        { outcome := .error fault
          comparison := { options }
          desk := start.desk.released desk
          records := [] }
      | .ok listing =>
        let (names, verdict, session) := search options clock f g (start.note Level.info listing)
        let session := session.note Level.info
          (verdict.name ++ " after " ++ toString session.checked ++ " assignments")
        { outcome := .ok verdict
          comparison := { options, names, checked := session.checked, timed := true }
          desk := session.desk.released desk
          records := session.records.reverse }

end Comparison

/-! ### Comparing descriptions -/

/-- The clock by which a comparison of descriptions runs; no answer depends on it. -/
def presentClock : Nat → Float := fun _ => 1000000000

/-- The **answer** about two functions, of which either may be missing: that of a new
comparison with loggers as they are at the start. -/
def compare (f g : Option BooleanFunction) (fields : List (String × Value)) :
    Except Fault Verdict :=
  (Comparison.run .initial presentClock f g fields).outcome

/-- The verdict if a function **cannot be made**, where `what` tells what was to be
compared. -/
def unmade (what : String) (fault : Fault) : Verdict :=
  match fault with
  | .formula cause => .failed ("cannot compare" ++ what ++ ": " ++ cause.message)
  | .argument cause => .failed ("cannot compare" ++ what ++ ": " ++ cause.message)
  | fault => .failed ("unexpected error while comparing" ++ what ++ ": " ++ fault.message)

/-- The functions described by two formulas, the left one being made first, so that it is the
left one that is reported if neither can be made. -/
def describedByFormulas (left right : Value) :
    Except Fault (BooleanFunction × BooleanFunction) := do
  let f ← BooleanFunction.ofFormulaValue left
  let g ← BooleanFunction.ofFormulaValue right
  return (f, g)

/-- The function with a number and the function described by a formula, of which the one with
the number is made first. -/
def describedByNumber (count number formula : Value) :
    Except Fault (BooleanFunction × BooleanFunction) := do
  let f ← BooleanFunction.ofValues count number
  let g ← BooleanFunction.ofFormulaValue formula
  return (f, g)

end Junctor
