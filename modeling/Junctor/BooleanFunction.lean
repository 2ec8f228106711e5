import Junctor.Complexity
import Junctor.Cost
import Junctor.Names
import Junctor.ReversePolish.Evaluation
import Junctor.Token.Lexer
import Junctor.TruthTable.NormalForm

/-!
# Boolean Functions

A Boolean function of n variables is its truth table: the column of the 2^n results in the
order of the rows. It is given by a formula, whose variables it has in sorted order, or by
its number, whose binary digits are the results, the first row having the most significant
one.

A function that came from a formula is evaluated by its formula. A function that came from a
number is evaluated by the first row of its truth table that agrees with the assignment.

## Main results

* `BooleanFunction.ofFormula`, `BooleanFunction.ofNumber`: the two ways to make a function.
* `BooleanFunction.evaluate`: the value at an assignment.
* `BooleanFunction.normalForm`: the two perfect normal forms.
-/

namespace Junctor

/-- Where a function **came from**: a formula, with its tokens in reverse Polish order, or a
number. -/
inductive Origin where
  | formula (text : String) (tokens : List Token)
  | number (given : Cell)

/-- A **Boolean function** with its truth table: the names of the variables, one result for
each row, and where the function came from, which decides how it is evaluated and described
later on. -/
structure BooleanFunction where
  /-- The names of the variables, in the order of the columns of the truth table. -/
  names : List String
  /-- The results, in the order of the rows. -/
  results : List Bool
  /-- Where the function came from. -/
  origin : Origin

namespace BooleanFunction

/-! ### From a formula -/

/-- The column of results of a formula, given by tokens in reverse Polish order. -/
def resultsOf (names : List String) (tokens : List Token) : Except FormulaError (List Bool) :=
  (List.range (2 ^ names.length)).mapM fun (index : Nat) =>
    let bindings := names.zip (rowValues index names.length)
    evaluate (fun name => bindings.lookup name) tokens

/-- The function described by a formula that is not blank. -/
def ofTokens (formula : String) (tokens : List Token) : Except FormulaError BooleanFunction := do
  let polish ← toReversePolish tokens
  let names := sortedNames (tokens.filterMap Token.name?)
  return { names, results := ← resultsOf names polish, origin := .formula formula polish }

/-- The function **described by a formula**, of the variables that occur in it, whose results
are the truth values in the rows. A blank text is refused before it is read. -/
def ofFormula (formula : String) : Except Fault BooleanFunction :=
  if Text.isBlankText formula then .error (.argument .emptyFormula)
  else
    (do ofTokens formula (← tokens formula) : Except FormulaError BooleanFunction).mapError
      Fault.formula

/-! ### From a number -/

/-- The names of the variables of a function that is given by its number. -/
def numberedVariables (count : Nat) : List String :=
  (List.range count).map fun i => "x" ++ toString (i + 1)

/-- The binary digits of a function number, the most significant of 2^n first. -/
def digits (variableCount number : Nat) : List Bool :=
  (List.range (2 ^ variableCount)).map fun row => number.testBit (2 ^ variableCount - 1 - row)

/-- Is the number of variables within bounds? -/
def countInBounds (count : Int) : Bool := 1 ≤ count && count ≤ maxVariables

/-- Is the number of a function of some variables within bounds? -/
def numberInBounds (variableCount : Nat) (number : Int) : Bool :=
  0 ≤ number && number < 2 ^ 2 ^ variableCount

/-- The function **with a number**, of variables named `x1`, `x2` and so on, whose results
are the binary digits of the number. Both numbers are checked against their bounds, the count
first, and a number that is refused is named in the message. -/
def ofNumber (count number : Cell) : Except Fault BooleanFunction :=
  if !countInBounds count.toInt then .error (ArgumentError.variableCount count.toValue).fault
  else if !numberInBounds count.toInt.toNat number.toInt then
    .error (ArgumentError.functionNumber count number.toValue).fault
  else .ok {
    names := numberedVariables count.toInt.toNat
    results := digits count.toInt.toNat number.toInt.toNat
    origin := .number number }

/-- The fault of a number of variables that is no integer. A float is compared before it turns
out to be of no use. -/
def countFault : Value → Fault
  | .float x =>
    if 1 ≤ x ∧ x ≤ maxVariables.toFloat then .unsupported "<<" "int" "float"
    else .argument (.variableCount (.float x))
  | value => .unordered "<=" "int" value.typeName

/-- The fault of a function number that is no integer. -/
def numberFault (count : Cell) : Value → Fault
  | .float x =>
    let exact := Number.Binary.ofFloat x
    if exact.compareInt 0 != .lt && exact.compareInt (2 ^ 2 ^ count.toInt.toNat - 1) != .gt then
      .unsupported ">>" "float" "int"
    else .argument (.functionNumber count (.float x))
  | value => .unordered "<=" "int" value.typeName

/-- The function with a number, where any values may be given. -/
def ofValues (count number : Value) : Except Fault BooleanFunction :=
  match count.toCell?, number.toCell? with
  | some count, some number => ofNumber count number
  | some count, none =>
    if countInBounds count.toInt then .error (numberFault count number)
    else .error (ArgumentError.variableCount count.toValue).fault
  | none, _ => .error (countFault count)

/-! ### Parts of a function -/

/-- The number of variables. -/
def variableCount (f : BooleanFunction) : Nat := f.names.length

/-- The rows of the truth table, in order, which are made from the results whenever they are
asked for. -/
def rows (f : BooleanFunction) : List Row :=
  f.results.zipIdx.map fun (result, index) => Row.ofIndex f.names index result

/-- How costly the function is. -/
def complexity (f : BooleanFunction) : Complexity := .ofVariableCount f.variableCount

/-- The formula that the function came from, or the empty text. -/
def givenFormula (f : BooleanFunction) : String :=
  match f.origin with
  | .formula text _ => text
  | .number _ => ""

/-- The number that the function came from, where a function that came from a formula has the
number -1. -/
def number (f : BooleanFunction) : Cell :=
  match f.origin with
  | .formula _ _ => .int (-1)
  | .number given => given

/-- Did the function come from a formula? -/
def isFromFormula (f : BooleanFunction) : Bool := f.number.toInt < 0

/-- Have two functions the same truth table and the same origin? -/
def sameAs (f g : BooleanFunction) : Bool :=
  f.names == g.names && f.results == g.results &&
    f.givenFormula == g.givenFormula && f.number.toInt == g.number.toInt

/-! ### Values and normal forms -/

/-- The first row that agrees with an assignment, if there is one. Names that the row does
not have are against it. -/
def rowFor? (f : BooleanFunction) (assignment : Assignment) : Option (Bool × Nat) :=
  f.results.zipIdx.find? fun (result, index) =>
    (Row.ofIndex f.names index result).agreesWith assignment

/-- The **value** at an assignment. If no row agrees with it, the error names the
assignment. -/
def evaluate (f : BooleanFunction) (assignment : Assignment) : Except Fault Bool :=
  match f.origin with
  | .formula _ tokens => (Junctor.evaluate assignment.valuation tokens).mapError Fault.formula
  | .number _ =>
    match f.rowFor? assignment with
    | some (result, _) => .ok result
    | none => .error (ArgumentError.noRow assignment).fault

/-- The perfect normal form of one of the two kinds, read off the rows of the truth table. -/
def normalForm (f : BooleanFunction) (form : Form) : String := form.perfect f.names f.rows

/-- The perfect normal form with a name, if there is a form of that name. -/
def namedForm (f : BooleanFunction) (name : String) : Except Fault String :=
  match Form.ofName? name with
  | some form => .ok (f.normalForm form)
  | none => .error (.argument (.unknownForm name))

/-- The cost of the two normal forms, counted in their texts. -/
def cost (f : BooleanFunction) : Except FormulaError Cost :=
  Cost.ofForms (f.normalForm .disjunctive) (f.normalForm .conjunctive)

/-- The row at a position, where a negative one counts from the end. -/
def rowAt (f : BooleanFunction) (position : Int) : Except Fault Row :=
  let rows := f.rows
  let fromStart := if position < 0 then position + rows.length else position
  if fromStart < 0 then .error .outOfRange
  else
    match rows[fromStart.toNat]? with
    | some row => .ok row
    | none => .error .outOfRange

end BooleanFunction

/-- The cost of the function described by a formula. -/
def costOfFormula (formula : String) : Except Fault Cost := do
  (← BooleanFunction.ofFormula formula).cost.mapError Fault.formula

end Junctor
