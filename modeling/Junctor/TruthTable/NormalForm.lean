import Junctor.Token
import Junctor.TruthTable.Row

/-!
# Perfect Normal Forms

The perfect disjunctive form of a truth table has one conjunction for each row with a true
result, and the perfect conjunctive form one disjunction for each row with a false result.
Both are the same construction with the roles of the truth values and of the two connectives
exchanged.

## Main results

* `Form.perfect`: the perfect normal form of some rows.
* `Form.literal`: the literal of a variable in a term.
-/

namespace Junctor

/-- The two **kinds** of normal form, which are dual to each other: what is a conjunction in
one of them is a disjunction in the other. -/
inductive Form where
  | disjunctive
  | conjunctive
  deriving DecidableEq

namespace Form

/-- The result of the rows that have a term: a disjunctive form is made from the true rows,
and a conjunctive one from the false ones. -/
def selects : Form → Bool
  | disjunctive => true
  | conjunctive => false

/-- The connective inside a term. -/
def inner : Form → Connective
  | disjunctive => .and
  | conjunctive => .or

/-- The connective between the terms. -/
def outer : Form → Connective
  | disjunctive => .or
  | conjunctive => .and

/-- The **literal** of a variable: negated where its value is the opposite of the result that
the form selects. -/
def literal (form : Form) (name : String) (value : Cell) : String :=
  if value.toInt = (!form.selects).toInt then "¬" ++ name else name

/-- The term of a row, which joins one literal for each variable and always stands in
parentheses. -/
def term (form : Form) (row : Row) : String :=
  "(" ++ (" " ++ form.inner.symbol ++ " ").intercalate
    ((row.names.zip row.values).map fun (name, value) => form.literal name value) ++ ")"

/-- Has a row the result that the form selects? -/
def selectsRow (form : Form) (row : Row) : Bool := (row.result.toInt != 0) == form.selects

/-- The **perfect normal form** of rows over some variables. It is a constant if no row is
selected or there are no variables. -/
def perfect (form : Form) (names : List String) (rows : List Row) : String :=
  match rows.filter form.selectsRow with
  | [] => Token.constantText !form.selects
  | selected =>
    if names.isEmpty then Token.constantText form.selects
    else (" " ++ form.outer.symbol ++ " ").intercalate (selected.map form.term)

/-- The form with a name. A perfect form is the one that every name stands for. -/
def ofName? (name : String) : Option Form :=
  if name = "DNF" ∨ name = "PERFECT_DNF" then some disjunctive
  else if name = "KNF" ∨ name = "PERFECT_KNF" then some conjunctive
  else none

end Form

end Junctor
