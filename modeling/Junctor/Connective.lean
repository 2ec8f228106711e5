/-!
# Connectives and Operators

The formula language has one unary connective, negation, and five binary ones. An operator is
either; it has a symbol, a precedence and a number of operands.

| Connective  | Symbol | Precedence |
|-------------|--------|------------|
| negation    | `¬`    | 4          |
| conjunction | `∧`    | 3          |
| disjunction | `∨`    | 2          |
| exclusive or| `^`    | 2          |
| implication | `→`    | 1          |
| equivalence | `↔`    | 1          |

## Main results

* `Connective.apply`: the truth tables of the binary connectives.
* `Operator.precedence`: how tightly an operator binds.
* `Operator.ofSymbol?_symbol`: reading the symbol of an operator gives it back.
-/

namespace Junctor

/-- A **binary connective** of the formula language: the ones of the basis, which are
conjunction and disjunction, and those that can be expressed by these and negation. -/
inductive Connective where
  | and
  | or
  | xor
  | implies
  | iff
  deriving DecidableEq

/-- The **number of operands** that an operator takes, which is one or two. -/
inductive Arity where
  | unary
  | binary
  deriving DecidableEq

/-- An **operator** of the formula language: the negation, which stands before its operand,
or a connective, which stands between two. -/
inductive Operator where
  | negation
  | binary (connective : Connective)
  deriving DecidableEq

namespace Connective

/-- The truth table of a connective, as a function of the values on the left and on the
right. -/
def apply : Connective → Bool → Bool → Bool
  | and, a, b => a && b
  | or, a, b => a || b
  | xor, a, b => a != b
  | implies, a, b => !a || b
  | iff, a, b => a == b

/-- The symbol of a connective. -/
def symbol : Connective → String
  | and => "∧"
  | or => "∨"
  | xor => "^"
  | implies => "→"
  | iff => "↔"

/-- The **precedence** of a connective. -/
def precedence : Connective → Nat
  | and => 3
  | or => 2
  | xor => 2
  | implies => 1
  | iff => 1

/-- The connective with a symbol, if the symbol has one. -/
def ofSymbol? (symbol : String) : Option Connective :=
  if symbol = "∧" then some and
  else if symbol = "∨" then some or
  else if symbol = "^" then some xor
  else if symbol = "→" then some implies
  else if symbol = "↔" then some iff
  else none

/-- Reading the symbol of a connective **gives it back**. -/
@[simp] theorem ofSymbol?_symbol (c : Connective) : ofSymbol? c.symbol = some c := by
  cases c <;> decide

/-- Only its own symbol is read as a connective. -/
theorem symbol_of_ofSymbol? {symbol : String} {c : Connective} (read : ofSymbol? symbol = some c) :
    c.symbol = symbol := by
  unfold ofSymbol? at read
  repeat' split at read
  all_goals cases read
  all_goals simp [Connective.symbol, *]

end Connective

namespace Operator

/-- The symbol of an operator. -/
def symbol : Operator → String
  | negation => "¬"
  | binary c => c.symbol

/-- The **precedence** of an operator: the greater one binds more tightly. -/
def precedence : Operator → Nat
  | negation => 4
  | binary c => c.precedence

/-- How many operands an operator takes. -/
def arity : Operator → Arity
  | negation => .unary
  | binary _ => .binary

/-- The operator with a symbol, if the symbol has one. -/
def ofSymbol? (symbol : String) : Option Operator :=
  if symbol = "¬" then some negation else (Connective.ofSymbol? symbol).map binary

/-- Every operator, in the order of the symbols by code point. -/
def all : List Operator :=
  [binary .xor, negation, binary .implies, binary .iff, binary .and, binary .or]

/-- Reading the symbol of an operator **gives it back**. -/
@[simp] theorem ofSymbol?_symbol (op : Operator) : ofSymbol? op.symbol = some op := by
  rcases op with _ | c
  · decide
  · cases c <;> decide

/-- Only its own symbol is read as an operator. -/
theorem symbol_of_ofSymbol? {symbol : String} {op : Operator} (read : ofSymbol? symbol = some op) :
    op.symbol = symbol := by
  unfold ofSymbol? at read
  split at read
  · cases read
    simp [Operator.symbol, *]
  · obtain ⟨c, readC, rfl⟩ := Option.map_eq_some_iff.1 read
    exact Connective.symbol_of_ofSymbol? readC

/-- A precedence lies between 1 and 4. -/
theorem precedence_bounds (op : Operator) : 1 ≤ op.precedence ∧ op.precedence ≤ 4 := by
  rcases op with _ | c
  · decide
  · cases c <;> decide

end Operator

end Junctor
