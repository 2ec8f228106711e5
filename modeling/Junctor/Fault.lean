import Junctor.Assignment

/-!
# Faults

What can go wrong in the use of the library beyond errors in formulas: arguments out of
bounds, values of the wrong type, look-ups that find nothing. A fault is a cause with the
data that its message names. The message about an argument is written when the error comes
up, so that an argument which cannot be written out gives another fault than the one that was
to be reported.

## Main results

* `ArgumentError.message`, `Fault.message`: the messages.
* `ArgumentError.fault`: the fault that an error in an argument comes to.
-/

namespace Junctor

/-- An **argument** that a function cannot be made from or evaluated at, with the values that
its message names. -/
inductive ArgumentError where
  /-- The formula holds nothing but blanks. -/
  | emptyFormula
  /-- The number of variables is out of bounds. -/
  | variableCount (given : Value)
  /-- The number of the function is out of bounds. -/
  | functionNumber (variableCount : Cell) (given : Value)
  /-- No row of the truth table goes with the assignment. -/
  | noRow (assignment : Assignment)
  /-- There is no normal form of the name. -/
  | unknownForm (name : String)

/-- The greatest number of variables of a function that is given by its number. -/
def maxVariables : Nat := 10

/-- The greatest number of a function of some variables, written out for up to 64 rows. -/
def numberBound (variableCount : Nat) : String :=
  let rows := 2 ^ variableCount
  if rows ≤ 64 then toString (2 ^ rows - 1) else "2^" ++ toString rows ++ " - 1"

/-- The message for a user, in which the values that were given are written out next to the
bounds they break. -/
def ArgumentError.message : ArgumentError → String
  | emptyFormula => "formula must not be empty"
  | variableCount given =>
    "number of variables must be in [1, " ++ toString maxVariables ++ "], got " ++ given.plain
  | functionNumber count given =>
    "function number must be in [0, " ++ numberBound count.toInt.toNat ++ "] for " ++ count.plain ++
      " variables, got " ++ given.plain
  | noRow assignment => "no row of the truth table matches " ++ assignment.describe
  | unknownForm name => "unknown normal form type: " ++ name

/-- Can the message be written? It names values that were given. -/
def ArgumentError.isWritable : ArgumentError → Bool
  | emptyFormula => true
  | variableCount given => given.isWritable
  | functionNumber count given => Number.isWritable count.toInt && given.isWritable
  | noRow assignment => assignment.isWritable
  | unknownForm _ => true

/-- Anything that can **go wrong** in a call, be it a formula, an argument or a value of a
type that an operation does not take. -/
inductive Fault where
  /-- Something is wrong with a formula. -/
  | formula (cause : FormulaError)
  /-- An argument cannot be used. -/
  | argument (cause : ArgumentError)
  /-- Values of the two types stand in no order. -/
  | unordered (relation left right : String)
  /-- The operation is not defined on values of the two types. -/
  | unsupported (operation left right : String)
  /-- A value of the type lacks the member. -/
  | noMember (type member : String)
  /-- The function takes no argument of the name. -/
  | unexpectedArgument (function name : String)
  /-- The argument of the name already has its place. -/
  | repeatedArgument (function name : String)
  /-- The name is none of those of a row. -/
  | unknownName
  /-- The position lies outside. -/
  | outOfRange
  /-- The symbol stands for no operator. -/
  | unknownSymbol (symbol : Value)
  /-- A value of the type stands where a tree should. -/
  | noTree (type : String)
  /-- A value of the type has no length. -/
  | noLength (type : String)
  /-- A value of the type holds no items. -/
  | noItems (type : String)
  /-- A value of the type cannot be looked up in a table. -/
  | noKey (type : String)
  /-- A value of the type does not say how often to repeat something. -/
  | noCount (type : String)
  /-- The span of time has more days than can be written. -/
  | tooManyDays (days : Int)
  /-- The integer is beyond the floats. -/
  | integerBeyondFloats
  /-- The quotient of two integers is beyond the floats. -/
  | quotientBeyondFloats
  /-- An integer has too many digits to be written out. -/
  | tooManyDigits

/-- The fault that an error in an argument **comes to**: the error itself, or that its
message could not be written. -/
def ArgumentError.fault (cause : ArgumentError) : Fault :=
  if cause.isWritable then .argument cause else .tooManyDigits

/-- An error with a message that can be written is reported. -/
theorem ArgumentError.fault_of_writable {cause : ArgumentError}
    (writable : cause.isWritable = true) : cause.fault = .argument cause :=
  if_pos writable

/-- A part of a tree is missing. -/
def Fault.missingPart : Fault := .noTree (Value.typeName .null)

/-- The greatest number of days that a span of time may have. -/
def maxDays : Nat := 999999999

/-- The message for too many days; a number of more than 31 bits is not shown. -/
def tooManyDaysMessage (days : Int) : String :=
  if -(2 ^ 31) ≤ days ∧ days < 2 ^ 31 then
    "days=" ++ toString days ++ "; must have magnitude <= " ++ toString maxDays
  else "Python int too large to convert to C int"

/-- The **message** for a user. -/
def Fault.message : Fault → String
  | formula cause => cause.message
  | argument cause => cause.message
  | unordered relation left right =>
    "'" ++ relation ++ "' not supported between instances of '" ++ left ++ "' and '" ++ right ++ "'"
  | unsupported operation left right =>
    "unsupported operand type(s) for " ++ operation ++ ": '" ++ left ++ "' and '" ++ right ++ "'"
  | noMember type member => "'" ++ type ++ "' object has no attribute '" ++ member ++ "'"
  | unexpectedArgument function name =>
    function ++ "() got an unexpected keyword argument '" ++ name ++ "'"
  | repeatedArgument function name =>
    function ++ "() got multiple values for argument '" ++ name ++ "'"
  | unknownName => "tuple.index(x): x not in tuple"
  | outOfRange => "tuple index out of range"
  | unknownSymbol symbol => symbol.literal
  | noTree type => "<class '" ++ type ++ "'>"
  | noLength type => "object of type '" ++ type ++ "' has no len()"
  | noItems type => "'" ++ type ++ "' object is not iterable"
  | noKey type => "unhashable type: '" ++ type ++ "'"
  | noCount type => "can't multiply sequence by non-int of type '" ++ type ++ "'"
  | tooManyDays days => tooManyDaysMessage days
  | integerBeyondFloats => "int too large to convert to float"
  | quotientBeyondFloats => "integer division result too large for a float"
  | tooManyDigits => Number.tooManyDigitsMessage

/-- The text of a formula that may be given as any value: what is false counts as empty. -/
def Value.formulaText (value : Value) : Except Fault String :=
  match value with
  | .text s => .ok s
  | value => if value.isTrue then .error (.noMember value.typeName "isspace") else .ok ""

end Junctor
