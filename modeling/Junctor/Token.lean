import Junctor.Connective
import Junctor.FormulaError
import Junctor.Text.Letter

/-!
# Tokens

A token is a word of a formula. `Token.ofText` reads one, and `Token.text` writes it. Every
text is read as some token, and a text that has no place in formulas is read as an unknown
one.

## Main results

* `Token.text_ofText`: writing the token that was read gives the text back.
* `Token.kind?`: the kind of a token, and the error for one of no kind.
-/

namespace Junctor

/-- A **token** of a formula, where an unknown one is kept as it was written until something
objects to it. -/
inductive Token where
  | var (name : String)
  | const (value : Bool)
  | operator (op : Operator)
  | openParen
  | closeParen
  | unknown (text : String)
  deriving DecidableEq

namespace Token

/-- The **kinds** of tokens that may stand in a formula, each of which has a name for users. -/
inductive Kind where
  | var
  | operator
  | const
  | openParen
  | closeParen
  deriving DecidableEq

/-! ### Reading and writing -/

/-- The digit as which a constant is written. -/
def constantText (value : Bool) : String := if value then "1" else "0"

/-- The token as it is **written**. -/
def text : Token → String
  | var name => name
  | const value => constantText value
  | operator op => op.symbol
  | openParen => "("
  | closeParen => ")"
  | unknown text => text

/-- Does `s` begin with a letter, as the name of a variable does? -/
def startsWithLetter (s : String) : Bool :=
  match s.toList with
  | [] => false
  | c :: _ => Text.isLetter c

/-- The token that a text is **read as**: a symbol, a constant, a parenthesis, a name if it
starts with a letter, and else an unknown token. -/
def ofText (s : String) : Token :=
  match Operator.ofSymbol? s with
  | some op => operator op
  | none =>
    if s = "0" then const false
    else if s = "1" then const true
    else if s = "(" then openParen
    else if s = ")" then closeParen
    else if startsWithLetter s then var s
    else unknown s

/-- Writing the token that was read gives the text back, so that **no token loses its
text**. -/
@[simp] theorem text_ofText (s : String) : (ofText s).text = s := by
  unfold ofText
  split
  · next op read => exact Operator.symbol_of_ofSymbol? read
  · repeat' split
    all_goals simp_all [text, constantText]

/-- The symbol of an operator is read as the operator. -/
theorem ofText_symbol (op : Operator) : ofText op.symbol = .operator op := by
  rw [ofText, op.ofSymbol?_symbol]

/-! ### Kinds -/

/-- The **kind** of a token, which an unknown one lacks. -/
def kind? : Token → Except FormulaError Kind
  | var _ => .ok .var
  | const _ => .ok .const
  | operator _ => .ok .operator
  | openParen => .ok .openParen
  | closeParen => .ok .closeParen
  | unknown text => .error (.unknownKind text)

/-- The name of a kind. -/
def Kind.name : Kind → String
  | .var => "VARIABLE"
  | .operator => "OPERATOR"
  | .const => "CONSTANT"
  | .openParen => "LEFT_PAREN"
  | .closeParen => "RIGHT_PAREN"

/-- A token in words, with its kind and its position among the tokens. -/
def describe (t : Token) (kind : Kind) (position : Nat) : String :=
  t.text ++ " (" ++ kind.name ++ ") at " ++ toString position

/-- Is the token a variable? -/
def isVariable : Token → Bool
  | var _ => true
  | _ => false

/-- Is the token a constant? -/
def isConstant : Token → Bool
  | const _ => true
  | _ => false

/-- Is the token an operand, standing for a value by itself? -/
def isOperand (t : Token) : Bool := t.isVariable || t.isConstant

/-- The operator that the token stands for, if it does for one. -/
def operator? : Token → Option Operator
  | operator op => some op
  | _ => none

/-- Is the token an operator? -/
def isOperator (t : Token) : Bool := t.operator?.isSome

/-- Is the token a parenthesis? -/
def isParen (t : Token) : Bool := t == openParen || t == closeParen

/-- The name of the variable that the token stands for, if it does for one. -/
def name? : Token → Option String
  | var name => some name
  | _ => none

end Token

end Junctor
