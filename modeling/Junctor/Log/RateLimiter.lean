import Junctor.Fault

/-!
# Rate Limits

A rate limiter lets a record pass if at least a certain time has gone by since the last
record that it let pass. It can be switched off, and then lets everything pass and remembers
nothing. Times are of any type with differences and an order; for scalars there is a form
that notices a difference that cannot be told.

A rate is stored as it is given and looked at only when it is needed. So a limiter may hold a
rate that is no time at all, and a record that gets as far as the rate finds out.

## Main results

* `RateLimiter.pass`: the decision on a record.
* `RateLimiter.step`: what an event does.
* `RateLimiter.step?_eq_ok`: the careful form does the same unless it fails.
* `RateLimiter.pass?`: the decision where the rate may be any value;
  `RateLimiter.pass?_eq_error` and `RateLimiter.exists_pass?_eq_ok` say when there is one.
-/

namespace Junctor

/-- A **rate limiter**, with times in `τ`. The rate is a time too, unless another type is
named. -/
structure RateLimiter (τ : Type) (ρ : Type := τ) where
  /-- Is the limiter switched on? -/
  active : Bool
  /-- The time of the last record that passed while the limiter was on. -/
  lastPassed : τ
  /-- The least time between two records. -/
  rate : ρ

namespace RateLimiter

variable {τ ρ σ : Type}

/-- A limiter that is on and has let nothing pass since `origin`. -/
def starting (origin : τ) (rate : ρ) : RateLimiter τ ρ :=
  { active := true, lastPassed := origin, rate }

/-- The limiter with another rate, which is stored whatever it is. -/
def setRate (limiter : RateLimiter τ ρ) (rate : σ) : RateLimiter τ σ := { limiter with rate }

/-- The **decision** on a record at the time `now`, and the limiter afterwards. A limiter
that is off lets everything pass and remembers nothing of it. -/
def pass [Sub τ] [LE τ] [DecidableLE τ] (limiter : RateLimiter τ) (now : τ) :
    Bool × RateLimiter τ :=
  if !limiter.active then (true, limiter)
  else if limiter.rate ≤ now - limiter.lastPassed then (true, { limiter with lastPassed := now })
  else (false, limiter)

/-- What can **happen** to a limiter: a record comes, it is switched on or off, or it is
given another rate. -/
inductive Event (τ : Type) where
  | record (now : τ)
  | switchOn
  | switchOff
  | setRate (rate : τ)

/-- What an event **does** to a limiter, with the decision if the event is a record. -/
def step [Sub τ] [LE τ] [DecidableLE τ] (limiter : RateLimiter τ) :
    Event τ → Option Bool × RateLimiter τ
  | .record now =>
    let (passed, limiter) := limiter.pass now
    (some passed, limiter)
  | .switchOn => (none, { limiter with active := true })
  | .switchOff => (none, { limiter with active := false })
  | .setRate rate => (none, limiter.setRate rate)

/-! ### Scalars as times -/

/-- Can the time since the last record not be told? A limiter that is off does not ask. -/
def isLost (limiter : RateLimiter Number.Scalar) (now : Number.Scalar) : Bool :=
  limiter.active && (now.sub? limiter.lastPassed).isNone

/-- What an event does, unless the time cannot be told. -/
def step? (limiter : RateLimiter Number.Scalar) (event : Event Number.Scalar) :
    Except Fault (Option Bool × RateLimiter Number.Scalar) :=
  match event with
  | .record now =>
    if limiter.isLost now then .error .integerBeyondFloats else .ok (limiter.step (.record now))
  | event => .ok (limiter.step event)

/-- What does not fail **is what the event does**. -/
theorem step?_eq_ok {limiter : RateLimiter Number.Scalar} {event : Event Number.Scalar}
    {outcome : Option Bool × RateLimiter Number.Scalar}
    (done : limiter.step? event = .ok outcome) : outcome = limiter.step event := by
  unfold step? at done
  split at done
  · split at done
    · cases done
    · exact (Except.ok.inj done).symm
  · exact (Except.ok.inj done).symm

/-! ### Any values as rates -/

/-- The **decision** on a record where the rate may be any value. A limiter that is off does
not look at its rate; otherwise the rate has to be a number. -/
def pass? (limiter : RateLimiter Number.Scalar Value) (now : Number.Scalar) :
    Except Fault (Bool × RateLimiter Number.Scalar Value) :=
  if !limiter.active then .ok (true, limiter)
  else
    match limiter.rate.toScalar? with
    | none => .error (.unordered ">=" "float" limiter.rate.typeName)
    | some rate =>
      let (passed, next) := (limiter.setRate rate).pass now
      .ok (passed, next.setRate limiter.rate)

/-- A limiter that decides on a record stays on or off. -/
theorem active_pass (limiter : RateLimiter Number.Scalar) (now : Number.Scalar) :
    (limiter.pass now).2.active = limiter.active := by
  unfold pass
  split
  · rfl
  · split <;> rfl

variable {limiter : RateLimiter Number.Scalar Value}

/-- A limiter that is on cannot decide if its rate is no number. -/
theorem pass?_eq_error (on : limiter.active = true) (odd : limiter.rate.toScalar? = none)
    (now : Number.Scalar) :
    limiter.pass? now = .error (.unordered ">=" "float" limiter.rate.typeName) := by
  simp only [pass?, on, odd]
  rfl

/-- In all other cases it decides, and it stays on or off and keeps its rate. -/
theorem exists_pass?_eq_ok (ready : limiter.active = true → limiter.rate.toScalar? ≠ none)
    (now : Number.Scalar) :
    ∃ passed next, limiter.pass? now = .ok (passed, next) ∧ next.active = limiter.active ∧
      next.rate = limiter.rate := by
  unfold pass?
  cases on : limiter.active with
  | false => exact ⟨true, limiter, rfl, on, rfl⟩
  | true =>
      obtain ⟨span, numeric⟩ := Option.ne_none_iff_exists'.mp (ready on)
      simp only [numeric]
      exact ⟨_, _, rfl, (active_pass _ now).trans on, rfl⟩

end RateLimiter

end Junctor
