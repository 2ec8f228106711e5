import Junctor.Log.Stopwatch

/-!
# Elapsed Time

Log lines begin with the time that has gone by since a reference time. Until one is set, this
is the time at which the program was loaded. A span of time is a whole number of
microseconds, and it is written as days, hours, minutes, seconds and, if there are any,
microseconds. In a log line the last three characters are cut off.

## Main results

* `Span.ofSeconds`: the span of a float of seconds, rounded to the nearest microsecond.
* `Span.describe`: a span in words.
* `ElapsedClock.span`: the span from the reference time.
* `ElapsedClock.line`: the log line of a text.
-/

namespace Junctor

/-- A span of time in microseconds. -/
abbrev Span := Int

namespace Span

/-! ### From seconds -/

/-- The microseconds in a day. -/
def perDay : Int := 86400000000

/-- A float cut off toward zero. From `2 ^ 52` on there is nothing to be cut off. -/
def cutOff (x : Float) : Float :=
  if x.abs < 4503599627370496 then
    Number.Scalar.floatOfInt (Number.Binary.ofFloat x).truncate
  else x

/-- What is added to the integer `whole` to round it with the fraction `rest` left over: a half
goes to the even neighbour. -/
def roundingOf (whole : Int) (rest : Float) : Int :=
  if rest.abs < 0.5 ∨ (rest.abs == 0.5 ∧ whole % 2 = 0) then 0 else if rest < 0 then -1 else 1

/-- The span of some **seconds**. Whole seconds count exactly; the rest is turned into
microseconds as a float and rounded. -/
def ofSeconds (seconds : Float) : Span :=
  let whole := (Number.Binary.ofFloat seconds).truncate
  let micros := (seconds - cutOff seconds) * 1000000
  let sum := whole * 1000000 + (Number.Binary.ofFloat micros).truncate
  sum + roundingOf sum (micros - cutOff micros)

/-! ### In words -/

/-- The days of a span, rounded down. -/
def days (span : Span) : Int := span / perDay

/-- The rest of the day, in microseconds. -/
def restOfDay (span : Span) : Nat := (span % perDay).toNat

/-- The hours, minutes and seconds of a number of seconds. -/
def clockText (seconds : Nat) : String :=
  toString (seconds / 3600) ++ ":" ++ Number.padded 2 (seconds / 60 % 60) ++ ":" ++
    Number.padded 2 (seconds % 60)

/-- A span in words: the days if there are any, the clock, and the microseconds unless there
are none. -/
def describe (span : Span) : String :=
  let days := if span.days = 0 then ""
    else toString span.days ++ (if span.days.natAbs = 1 then " day, " else " days, ")
  let micros := span.restOfDay % 1000000
  days ++ clockText (span.restOfDay / 1000000) ++
    (if micros = 0 then "" else "." ++ Number.padded 6 micros)

/-- A span as it stands in a log line: its text without the last three characters. Behind a
fraction of a second these are the digits after the milliseconds. -/
def shortened (span : Span) : String :=
  let text := span.describe.toList
  String.ofList (text.take (text.length - 3))

end Span

/-- A **clock** for log lines, which tells how much time has gone by since a reference time. -/
structure ElapsedClock where
  /-- The reference time, in seconds after the start of the log. -/
  reference : Number.Scalar

namespace ElapsedClock

/-- The clock before its reference time is set: it counts from the time at which its program
was loaded, and this was `loaded` seconds after the start of the log. -/
def unset (loaded : Float) : ElapsedClock := { reference := .float loaded }

/-- Set the reference time, where the start of the log is the time 0. Nothing is left of the
reference time before. -/
def setReference (_ : ElapsedClock) (time : Number.Scalar) : ElapsedClock :=
  { reference := time - .whole 0 }

/-- The reference time that was set; a negative zero has lost its sign. -/
def referenceTime (clock : ElapsedClock) : Number.Scalar :=
  match clock.reference with
  | .whole i => .whole i
  | .float x => .float (x + 0)

/-- The seconds in a number of milliseconds. -/
def secondsOf : Number.Scalar → Except Fault Float
  | .whole i =>
    let seconds := Number.nearestFloat i.natAbs 1000
    if seconds.isInf then .error .quotientBeyondFloats
    else .ok (if i < 0 then -seconds else seconds)
  | .float x => .ok (x / 1000)

/-- The span from the reference time to some milliseconds after the start, rounded to
microseconds. -/
def span (clock : ElapsedClock) (created : Number.Scalar) : Except Fault Span := do
  let elapsed ← timeBetween clock.reference (.float (← secondsOf created))
  return Span.ofSeconds elapsed.toFloat

/-- The **log line** of a text that was created some milliseconds after the start. -/
def line (clock : ElapsedClock) (created : Number.Scalar) (text : String) :
    Except Fault String := do
  let span ← clock.span created
  if span.days.natAbs ≤ maxDays then return span.shortened ++ ": " ++ text
  else throw (.tooManyDays span.days)

end ElapsedClock

end Junctor
