import Junctor.Fault
import Junctor.Log.Level

/-!
# Options of a Comparison

A comparison has three options: the level of its log, the least time between two records of
progress, and the greatest number of variables. They are given by name and may have any
values; a value of the wrong type shows when it is used.

## Main results

* `Options.ofFields`: the options given by name.
* `Options.exceededBy`: are there too many variables?
* `Options.listing`: the options written out, if they can be.
-/

namespace Junctor

/-- The **options** of a comparison, each of which may be given as any value at all: whether
it can be used turns out when it is. -/
structure Options where
  /-- The level of the log, which is a level or the name of one. -/
  logLevel : Value := .int Level.notSet
  /-- The least time in seconds between two records of progress. -/
  logRate : Value := .float 0.5
  /-- The greatest number of variables of both functions together. -/
  maxVariables : Value := .int 8

/-- What is **wrong with options** that are given by name: a name that no option has, or a
value that is no level where one is needed. -/
inductive OptionFault where
  | unknownOption (name : String)
  | level (cause : LevelFault)

/-- The message for a user. -/
def OptionFault.message : OptionFault → String
  | unknownOption name => (Fault.unexpectedArgument "Options.__init__" name).message
  | level cause => cause.message

namespace Options

/-- The options with one more given by name, unless there is no option of that name. -/
def set (options : Options) (field : String × Value) : Except OptionFault Options :=
  if field.1 = "log_level" then .ok { options with logLevel := field.2 }
  else if field.1 = "log_rate" then .ok { options with logRate := field.2 }
  else if field.1 = "max_variables" then .ok { options with maxVariables := field.2 }
  else .error (.unknownOption field.1)

/-- The options given by name, one after the other, so that of two values for one option the
later counts. Options that are not given have their usual values. -/
def ofFields (fields : List (String × Value)) : Except OptionFault Options := fields.foldlM set {}

/-- The level of the log that the options ask for, if what is given for it is one. -/
def level (options : Options) : Except OptionFault Int :=
  (Level.ofValue options.logLevel).mapError OptionFault.level

/-- Are `count` variables more than the options allow? Truth values and floats are bounds
too, and any other value stands in no order to the count. -/
def exceededBy (options : Options) (count : Nat) : Except Fault Bool :=
  match options.maxVariables with
  | .truth b => .ok (count > b.toInt)
  | .int bound => .ok (count > bound)
  | .float bound => .ok (count.toFloat > bound)
  | value => .error (.unordered ">" "int" value.typeName)

/-- Can the options be written out? That a value can be used as an option is no guarantee. -/
def isWritable (options : Options) : Bool :=
  options.logLevel.isWritable && options.logRate.isWritable && options.maxVariables.isWritable

/-- The options **written out**, if their numbers can be: an integer with too many digits has
no text. -/
def listing (options : Options) : Except Fault String :=
  if options.isWritable then
    .ok ("Options(log_level=" ++ options.logLevel.literal ++ ", log_rate=" ++
      options.logRate.literal ++ ", max_variables=" ++ options.maxVariables.literal ++ ")")
  else .error .tooManyDigits

/-- Options that can be written out have a listing. -/
theorem exists_listing {options : Options} (writable : options.isWritable = true) :
    ∃ text, options.listing = .ok text :=
  ⟨_, if_pos writable⟩

end Options

end Junctor
