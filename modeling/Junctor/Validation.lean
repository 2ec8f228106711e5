import Junctor.Fault
import Junctor.ReversePolish.Depth
import Junctor.Token.Lexer

/-!
# Validation

Validation tells whether a text is a formula, and fails at nothing: whatever it is given, it
returns a report. A good formula comes with its tokens and their reverse Polish order, a bad
one with a message. An error in the formula is an ordinary one; anything else is critical.

## Main results

* `validate`: the report on a formula.
* `Report.describe`: the report in words.
-/

namespace Junctor

/-- How **bad** a finding is. That a formula is accepted is information, that it is not is an
error, and a value that is no formula at all is critical. -/
inductive Severity where
  | info
  | warning
  | error
  | critical
  deriving DecidableEq

/-- The name of a severity. -/
def Severity.name : Severity → String
  | info => "INFO"
  | warning => "WARNING"
  | error => "ERROR"
  | critical => "CRITICAL"

/-- What validation **found**. -/
inductive Finding where
  | accepted (tokens : List (Token × Token.Kind)) (polish : List Token)
  | rejected (message : String) (severity : Severity)

/-- A **report** on a formula, which may be given as any value. -/
structure Report where
  /-- What was validated. -/
  formula : Value
  /-- What was found. -/
  finding : Finding

namespace Report

/-- The report of a failure. An empty message is filled in. -/
def failure (formula : Value) (message : String) (severity : Severity) : Report :=
  { formula, finding := .rejected (if message = "" then "unknown error" else message) severity }

/-- The severity of a failure of which nothing else is said. -/
def usualSeverity : Severity := .error

/-- Was the formula accepted? -/
def isSuccess (report : Report) : Bool :=
  match report.finding with
  | .accepted _ _ => true
  | .rejected _ _ => false

/-- The message of a failure, which is the empty text if the formula is accepted. -/
def message (report : Report) : String :=
  match report.finding with
  | .accepted _ _ => ""
  | .rejected message _ => message

/-- The severity of what was found. -/
def severity (report : Report) : Severity :=
  match report.finding with
  | .accepted _ _ => .info
  | .rejected _ severity => severity

/-- The tokens of an accepted formula, with their kinds; a formula that is rejected has
none. -/
def tokens (report : Report) : List (Token × Token.Kind) :=
  match report.finding with
  | .accepted tokens _ => tokens
  | .rejected _ _ => []

/-- The tokens of an accepted formula in reverse Polish order. -/
def polish (report : Report) : List Token :=
  match report.finding with
  | .accepted _ polish => polish
  | .rejected _ _ => []

/-- The report **in words**. -/
def describe (report : Report) : String :=
  match report.finding with
  | .accepted _ polish =>
    "parsed " ++ report.formula.plain ++ " -> " ++ " ".intercalate (polish.map Token.text)
  | .rejected message _ => "parse error: " ++ message

end Report

/-- The checks on a text: every token has a kind, parentheses match, operators have
operands. -/
def check (formula : String) : Except FormulaError Finding := do
  let tokens ← typedTokens formula
  let polish ← toReversePolish (tokens.map (·.1))
  checkDepth polish
  return .accepted tokens polish

/-- **Validate** a formula, which may be given as any value. -/
def validate (formula : Value) : Report :=
  match formula.formulaText with
  | .error fault => .failure formula ("unexpected error: " ++ fault.message) .critical
  | .ok text =>
    match check text with
    | .error cause => .failure formula cause.message .error
    | .ok finding => { formula, finding }

end Junctor
