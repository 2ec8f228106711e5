import Junctor.Log.Level
import Junctor.Log.RateLimiter
import Junctor.Text.Blank

/-!
# Loggers

A record passes a logger if its level is not silenced and reaches the level in force, its
text is not blank, and the rate limiter, if there is one, lets it pass. The three are asked
in this order, so that a record which is dropped for its level or its text does not use up
the rate.

## Main results

* `Logger.enabledFor`: the first question; `Logger.admits`: the first two; `Logger.log`: all
  three.
* `Record.line`: the line that a record makes.
-/

namespace Junctor

/-- A **record** for the log: a text with the level at which it is logged. -/
structure Record where
  /-- The level of the record. -/
  level : Int
  /-- The text of the record, which may be empty. -/
  text : String
  deriving DecidableEq

/-- The **line** of a record: its level in five places or more, a bar and the text. -/
def Record.line (record : Record) : String :=
  let name := Level.name record.level
  name ++ String.ofList (List.replicate (5 - name.length) ' ') ++ "|" ++ record.text ++ "\n"

/-- A **logger** with its own level, those it may follow, and possibly a limiter; times are
in `τ` and rates in `ρ`. -/
structure Logger (τ : Type) (ρ : Type := τ) where
  /-- The logger's own level, where 0 follows the loggers above. -/
  level : Int
  /-- The levels of the loggers above, the nearest first. -/
  above : List Int
  /-- What limits the rate of the records. -/
  limiter : Option (RateLimiter τ ρ)

namespace Logger

variable {τ ρ : Type}

/-- The levels of the loggers above one that stands directly below the root. -/
def root : List Int := [Level.warning]

/-- The level in force, which is the first one that is not 0 among the logger's own and those
above it, if there is any. -/
def levelInForce (logger : Logger τ ρ) : Int := Level.inForce logger.level logger.above

/-- Do records of a level **reach** the level in force? None does that is silenced. -/
def enabledFor (logger : Logger τ ρ) (level : Int) : Bool :=
  Level.silenced < level && logger.levelInForce ≤ level

/-- Does a record **reach** the level in force and say anything at all? Only then does it get
as far as the limiter. -/
def admits (logger : Logger τ ρ) (record : Record) : Bool :=
  logger.enabledFor record.level && !Text.isBlankText record.text

/-- **Log** a record at the time `now`: does it pass, and the logger afterwards. -/
def log [Sub τ] [LE τ] [DecidableLE τ] (logger : Logger τ) (now : τ) (record : Record) :
    Bool × Logger τ :=
  if !logger.admits record then (false, logger)
  else
    match logger.limiter with
    | none => (true, logger)
    | some limiter =>
      let (passed, limiter) := limiter.pass now
      (passed, { logger with limiter := some limiter })

/-- Log a record, unless it gets as far as the limiter and the time cannot be told. -/
def log? (logger : Logger Number.Scalar) (now : Number.Scalar) (record : Record) :
    Except Fault (Bool × Logger Number.Scalar) :=
  if logger.admits record && logger.limiter.any (·.isLost now) then .error .integerBeyondFloats
  else .ok (logger.log now record)

end Logger

end Junctor
