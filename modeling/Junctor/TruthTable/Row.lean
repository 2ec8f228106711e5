import Junctor.Fault
import Junctor.TruthTable.Index

/-!
# Rows of a Truth Table

A row gives values to variables, position by position, and has a result. If a name comes up
more than once, the bindings of the row have its last value; looking up by position takes the
first.

## Main results

* `Row.get`: the value at the position of a name.
* `Row.agreesWith`: does an assignment agree with the row?
* `Row.describe`: the row in words.
-/

namespace Junctor

/-- A **row** of a truth table, which may be put together by hand, so that there need not be
one value for each name. -/
structure Row where
  /-- The names of the variables. -/
  names : List String
  /-- Their values, in the same order. -/
  values : List Cell
  /-- The result in this row. -/
  result : Cell
  deriving DecidableEq

namespace Row

/-- The row with a number in the truth table over some variables. -/
def ofIndex (names : List String) (index : Nat) (result : Bool) : Row :=
  { names
    values := (rowValues index names.length).map Cell.truth
    result := .truth result }

/-- The bindings of a row. -/
def bindings (row : Row) : List (String × Cell) := collect (row.names.zip row.values)

/-- The number of a row, as which its values are read. -/
def index (row : Row) : Int := rowIndex row.values

/-- The value at the position of a name, which is the first one if the name occurs more than
once. -/
def get (row : Row) (name : String) : Except Fault Cell :=
  match row.names.idxOf? name with
  | none => .error .unknownName
  | some position =>
    match row.values[position]? with
    | some value => .ok value
    | none => .error .outOfRange

/-- The value that a name is bound to, the last one if there are several. -/
def value? (row : Row) (name : String) : Option Cell :=
  (row.names.zip row.values).reverse.lookup name

/-- Does an assignment **agree with the row**? Every name of it must be one of the row, with an
equal value. -/
def agreesWith (row : Row) (assignment : Assignment) : Bool :=
  assignment.all fun (name, value) =>
    match row.value? name with
    | some cell => value.equalsInt cell.toInt
    | none => false

/-- The values of a row in words. -/
def describeValues (row : Row) : String :=
  ", ".intercalate (row.bindings.map fun (name, value) => name ++ "=" ++ toString value.toInt)

/-- A row **in words**, if its numbers can be written out. -/
def describe (row : Row) : Except Fault String :=
  if (row.result :: row.bindings.map Prod.snd).all (Number.isWritable ·.toInt) then
    .ok (row.describeValues ++ " → " ++ toString row.result.toInt)
  else .error .tooManyDigits

end Row

end Junctor
