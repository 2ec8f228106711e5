import Junctor.Value

/-!
# Levels of Records

A record has a level, and a logger passes on the records whose level reaches its own. Levels
are integers, and some of them have names. A level may be given as an integer or by its name.

## Main results

* `Level.name`: the name of a level; `Level.ofValue`: the level that is given.
* `Level.inForce`: the level of a logger that may follow those above it.
-/

namespace Junctor

/-- A value that **is no level**: a text that names none, or a value of another type. Such a
value is named in the message, unless it holds a number with too many digits. -/
inductive LevelFault where
  | unknownName (name : String)
  | notALevel (given : Value)
  | tooManyDigits

/-- The message for a user. -/
def LevelFault.message : LevelFault → String
  | unknownName name => "Unknown level: " ++ Text.quoted name
  | notALevel given => "Level not an integer or a valid string: " ++ given.literal
  | tooManyDigits => Number.tooManyDigitsMessage

namespace Level

/-- The level of a record about the inner workings. -/
def debug : Int := 10

/-- The level of a record about the normal course of things. -/
def info : Int := 20

/-- The level of a warning. -/
def warning : Int := 30

/-- The level at which a logger follows the one above it. -/
def notSet : Int := 0

/-- The level up to which records are never passed on, whatever a logger's own level is. -/
def silenced : Int := 0

/-- The names under which levels may be given. -/
def names : List (String × Int) :=
  [("CRITICAL", 50), ("FATAL", 50), ("ERROR", 40), ("WARN", 30), ("WARNING", 30), ("INFO", 20),
   ("DEBUG", 10), ("NOTSET", 0)]

/-- The name of a level in a record, which is made from its number if it is none of the usual
levels. -/
def name (level : Int) : String :=
  if level = 50 then "CRITICAL"
  else if level = 40 then "ERROR"
  else if level = 30 then "WARNING"
  else if level = 20 then "INFO"
  else if level = 10 then "DEBUG"
  else if level = 0 then "NOTSET"
  else "Level " ++ toString level

/-- The level that is **given by a value**. An integer is not written out here, but a value
that is no level is named in the message. -/
def ofValue (value : Value) : Except LevelFault Int :=
  match value with
  | .truth b => .ok b.toInt
  | .int i => .ok i
  | .text s =>
    match names.lookup s with
    | some level => .ok level
    | none => .error (.unknownName s)
  | value => .error (if value.isWritable then .notALevel value else .tooManyDigits)

/-- The level **in force** for a logger with some level, below others, the nearest first: the
first that is set. -/
def inForce (level : Int) : List Int → Int
  | [] => level
  | above :: rest => if level = notSet then inForce above rest else level

/-- A level that is set is in force itself. -/
theorem inForce_of_ne {level : Int} (set : level ≠ notSet) (above : List Int) :
    inForce level above = level := by
  cases above with
  | nil => rfl
  | cons next rest => exact if_neg set

end Level

end Junctor
