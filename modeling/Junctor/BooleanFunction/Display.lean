import Junctor.BooleanFunction

/-!
# Showing Boolean Functions

The printed truth table, the explanation of a function number and the listing of a function.

In the table each column is as wide as the name at its head, and a value stands below the last
character of the name.

## Main results

* `BooleanFunction.table`: the lines of the printed truth table.
* `BooleanFunction.explainNumber`: how the digits of the number go with the rows.
* `BooleanFunction.listing`: the function on one line.
-/

namespace Junctor.BooleanFunction

/-! ### The truth table -/

/-- A value below a name, moved to the right so that it stands below the last character. -/
def tableCell (name : String) (value : Cell) : String :=
  let digits := toString value.toInt
  String.ofList (List.replicate (name.length - digits.length) ' ') ++ digits

/-- The line of a row. -/
def tableLine (row : Row) : String :=
  " ".intercalate ((row.names.zip row.values).map fun (name, value) => tableCell name value) ++
    " | " ++ toString row.result.toInt

/-- The **lines** of the printed truth table: one with the names of the variables, and then
one for each row in order. -/
def table (f : BooleanFunction) : List String :=
  (" ".intercalate f.names ++ " | f") :: f.rows.map tableLine

/-- The printed truth table. -/
def tableText (f : BooleanFunction) : String := "\n".intercalate f.table

/-- The truth table framed by the name of the type, with every line but the first indented. -/
def framedTable (f : BooleanFunction) : String :=
  "BooleanFunction(" ++ "\n  ".intercalate f.table ++ ")"

/-! ### The function number -/

/-- The binary digits of `n`, at least `width` of them. -/
def binaryText (width n : Nat) : List Char :=
  let digits := Nat.toDigits 2 n
  List.replicate (width - digits.length) '0' ++ digits

/-- The line of a row in the explanation of a function number. -/
def explainRow (row : Row) (position : Nat) (digit : Char) : String :=
  toString (position + 1) ++ ". (" ++ row.describeValues ++ ") → f = " ++
    toString row.result.toInt ++ " ↔ bit " ++ String.singleton digit

/-- The lines that explain a function number: its binary digits, how rows are read, and for
each row the digit that is its result. -/
def explanation (f : BooleanFunction) (number : Nat) : List String :=
  let binary := binaryText f.results.length number
  ("binary code of the function (" ++ toString f.results.length ++ " bits): " ++
      String.ofList binary) ::
    "rows are read from left to right in lexicographic order of the variables" ::
    (f.rows.zip binary).zipIdx.map fun ((row, digit), position) => explainRow row position digit

/-- How the digits of the function number **go with the rows**; empty for a function that
came from a formula. -/
def explainNumber (f : BooleanFunction) : String :=
  if f.isFromFormula then "" else "\n".intercalate (f.explanation f.number.toInt.toNat)

/-! ### The listing -/

/-- A tuple of texts as a literal: a single item is followed by a comma. -/
def tupleLiteral (items : List String) : String :=
  match items with
  | [item] => "(" ++ Text.quoted item ++ ",)"
  | items => "(" ++ ", ".intercalate (items.map Text.quoted) ++ ")"

/-- The function on one line: its variables, the formula or the number it came from, and its
complexity. -/
def listing (f : BooleanFunction) : String :=
  "BooleanFunction(variable_names=" ++ tupleLiteral f.names ++
    ", original_formula=" ++ Text.quoted f.givenFormula ++
    ", function_number=" ++ f.number.plain ++
    ", complexity=<ComplexityLevel." ++ f.complexity.name ++ ": " ++
    toString f.complexity.rank ++ ">)"

end Junctor.BooleanFunction
