import Junctor.Formula.Sketch
import Junctor.ReversePolish.Depth
import Junctor.Trace

/-!
# Traceable Functions

Some functions of the library can be called under a trace. A function shows up under its public
name, and its argument may be given by the name of its parameter. The passes over trees trace
themselves on every part of the tree.

## Main results

* `TraceOptions.ofFields`: the options given by name.
* `Target.outcome`: what a function comes to, also on an argument that it is not meant for.
* `Target.trace`: the call of a function under a trace, and its outcome.
* `Sketch.passCall`: the calls of a pass over a tree.
-/

namespace Junctor

/-- The **options** of a tracer, of which the step may be given as any value. -/
structure TraceOptions where
  /-- How much further the calls inside are indented. -/
  indentStep : Value := .int 2
  /-- Is the return of a call shown? -/
  showReturn : Bool := true
  /-- Are wide values spread over several lines? -/
  spreads : Bool := false

namespace TraceOptions

/-- The name under which a tracer is made. -/
def constructorName : String := "trace.__init__"

/-- The options with one more given by name. The tracer itself is no option. -/
def set (options : TraceOptions) (field : String × Value) : Except Fault TraceOptions :=
  if field.1 = "indent_step" then .ok { options with indentStep := field.2 }
  else if field.1 = "show_ret" then .ok { options with showReturn := field.2.isTrue }
  else if field.1 = "pretty" then .ok { options with spreads := field.2.isTrue }
  else if field.1 = "self" then .error (.repeatedArgument constructorName field.1)
  else .error (.unexpectedArgument constructorName field.1)

/-- The options **given by name**, the others having their usual values. -/
def ofFields (fields : List (String × Value)) : Except Fault TraceOptions := fields.foldlM set {}

/-- The tracer with the options; a step that is no integer counts as none. -/
def tracer (options : TraceOptions) : Tracer :=
  { indentStep := (options.indentStep.toCell?.map Cell.toInt).getD 0
    showReturn := options.showReturn
    spreads := options.spreads }

end TraceOptions

/-- The call of a **pass** over a sketch, where `returned` shows what the pass returns on a
part, and nothing if it fails there. The right part is not reached if the left one fails. -/
def Sketch.passCall (tracer : Tracer) (function : String) (returned : Sketch → Option String) :
    Sketch → Call
  | .not a =>
    .mk tracer function (tracer.write (shown (.not a))) [a.passCall tracer function returned]
      (returned (.not a))
  | .binary symbol a b =>
    .mk tracer function (tracer.write (shown (.binary symbol a b)))
      (a.passCall tracer function returned ::
        if (returned a).isSome then [b.passCall tracer function returned] else [])
      (returned (.binary symbol a b))
  | leaf => .mk tracer function (tracer.write leaf.shown) [] (returned leaf)

/-- A **function** that can be traced, which is one of those that work on formulas. -/
inductive Target where
  | print
  | toBasis
  | build
  | tokenize
  | tokenKind
  | isVariable
  | toReversePolish
  | checkDepth
  deriving DecidableEq

/-- The **argument** of a traced function: a tree, a text or a list of texts. -/
inductive Argument where
  | sketch (tree : Sketch)
  | text (s : String)
  | words (ws : List String)

/-- Texts in a list as they are shown. -/
def shownWords (ws : List String) : Shown := .list (ws.map Shown.text)

namespace Argument

/-- The argument as it is shown. -/
def shown : Argument → Shown
  | sketch tree => tree.shown
  | text s => .text s
  | words ws => shownWords ws

/-- The name of the type of the argument. -/
def typeName : Argument → String
  | sketch tree => tree.typeName
  | text _ => Value.typeName (.text "")
  | words _ => Value.typeName (.list [])

/-! ### The argument of a function of a certain kind -/

/-- The argument as a tree. -/
def tree : Argument → Except Fault Sketch
  | sketch tree => .ok tree
  | argument => .error (.noTree argument.typeName)

/-- The argument as a list of tokens; a text is a list of characters. -/
def tokens : Argument → Except Fault (List Token)
  | sketch tree => .error (.noItems tree.typeName)
  | text s => .ok (s.toList.map fun c => .ofText (String.singleton c))
  | words ws => .ok (ws.map .ofText)

/-- The argument as the text of a formula; what is missing or holds nothing counts as empty. -/
def formulaText : Argument → Except Fault String
  | sketch .missing => .ok ""
  | text s => .ok s
  | words [] => .ok ""
  | argument => .error (.noMember argument.typeName "isspace")

/-- The kind of the argument as a token. -/
def kind : Argument → Except Fault Token.Kind
  | sketch tree => .error (.noLength tree.typeName)
  | text s => (Token.ofText s).kind?.mapError Fault.formula
  | words ws => .error (.noKey (words ws).typeName)

/-- Is the argument a variable as a token? A list is none unless its first item is a word of
letters. -/
def isVariable : Argument → Except Fault Bool
  | sketch tree => .error (.noLength tree.typeName)
  | text s => .ok (Token.ofText s).isVariable
  | words [] => .ok false
  | words (first :: rest) =>
    if first ≠ "" ∧ first.toList.all Text.isLetter then
      .error (.noKey (words (first :: rest)).typeName)
    else .ok false

end Argument

namespace Target

/-- The name under which a function is called. -/
def name : Target → String
  | print => "format_node"
  | toBasis => "rewrite_to_basis"
  | build => "build_tree"
  | tokenize => "tokenize"
  | tokenKind => "token_type"
  | isVariable => "is_variable"
  | toReversePolish => "to_rpn"
  | checkDepth => "check_arity"

/-- The name of its parameter. -/
def parameter : Target → String
  | print => "node"
  | toBasis => "node"
  | build => "rpn"
  | tokenize => "formula"
  | tokenKind => "token"
  | isVariable => "token"
  | toReversePolish => "tokens"
  | checkDepth => "rpn"

/-- Every function that can be traced. -/
def all : List Target :=
  [print, toBasis, build, tokenize, tokenKind, isVariable, toReversePolish, checkDepth]

/-- The function with a name. -/
def ofName? (name : String) : Option Target := all.find? (·.name == name)

/-- A kind of token as it is shown. -/
def kindListing : Token.Kind → String
  | .var => "<TokenType.VARIABLE: 1>"
  | .operator => "<TokenType.OPERATOR: 2>"
  | .const => "<TokenType.CONSTANT: 3>"
  | .openParen => "<TokenType.LEFT_PAREN: 4>"
  | .closeParen => "<TokenType.RIGHT_PAREN: 5>"

/-- What a call **came to**: the value as it is shown, and the printed form of a tree. -/
structure Outcome where
  /-- The value as it is shown. -/
  shown : Shown
  /-- The printed form, if the value is a tree. -/
  printed : Option String

namespace Outcome

/-- An outcome that is no tree. -/
def plain (shown : Shown) : Outcome := { shown, printed := none }

/-- An outcome that is a list of tokens. -/
def ofTokens (tokens : List Token) : Outcome := plain (shownWords (tokens.map Token.text))

/-- An outcome that is a tree. -/
def ofTree (tree : Sketch) : Outcome := { shown := tree.shown, printed := tree.print.toOption }

end Outcome

/-- What a function **comes to** on an argument, which is a value to be shown or a fault. -/
def outcome (target : Target) (argument : Argument) : Except Fault Outcome :=
  match target with
  | print => do return .plain (.text (← (← argument.tree).print))
  | toBasis => do return .ofTree (← (← argument.tree).toBasis)
  | build => do
    let formula ← (Formula.ofReversePolish (← argument.tokens)).mapError Fault.formula
    return .ofTree (.ofFormula formula)
  | tokenize => do
    let found ← (Junctor.tokens (← argument.formulaText)).mapError Fault.formula
    return .ofTokens found
  | tokenKind => do return .plain (.word (kindListing (← argument.kind)))
  | isVariable => do return .plain (.word (Value.truthLiteral (← argument.isVariable)))
  | toReversePolish => do
    let polish ← (Junctor.toReversePolish (← argument.tokens)).mapError Fault.formula
    return .ofTokens polish
  | checkDepth => do
    (Junctor.checkDepth (← argument.tokens)).mapError Fault.formula
    return .plain (.word Value.null.literal)

/-- Does the function call itself on the parts of a tree? -/
def isPass : Target → Bool
  | print => true
  | toBasis => true
  | _ => false

/-- What the function returns on an argument as the tracer writes it, if it returns. -/
def returned (target : Target) (tracer : Tracer) (argument : Argument) : Option String :=
  (target.outcome argument).toOption.map fun outcome => tracer.write outcome.shown

/-- The call of a function on an argument. -/
def call (target : Target) (tracer : Tracer) (argument : Argument) : Call :=
  match target.isPass, argument with
  | true, .sketch tree =>
    tree.passCall tracer target.name fun part => target.returned tracer (.sketch part)
  | _, argument =>
    .mk tracer target.name (tracer.write argument.shown) [] (target.returned tracer argument)

/-- Does the function call itself on the argument? -/
def nests (target : Target) : Argument → Bool
  | .sketch tree => target.isPass && (tree.isUnary || tree.isBinary)
  | _ => false

/-- What is wrong with a step of the indentation. A step that is no number cannot be added to
the counter; after a step that is no integer the calls inside cannot be indented. -/
def stepFault? (step : Value) (nested : Bool) : Option Fault :=
  match step with
  | .truth _ => none
  | .int _ => none
  | .float x => if nested then some (.noCount (Value.typeName (.float x))) else none
  | step => some (.unsupported "+=" (Value.typeName (.int 0)) step.typeName)

/-- The call and the outcome, where the argument may be **given by name**. Only the outermost
call shows the name. A step that cannot be used and a name that is none of the function's end
the call at once. -/
def trace (target : Target) (options : TraceOptions) (argument : Argument)
    (keyword : Option String) : Call × Except Fault Outcome :=
  let .mk tracer function shown inner returned := target.call options.tracer argument
  let known := keyword.all (· == target.parameter)
  let arguments := (keyword.map (· ++ "=")).getD "" ++ shown
  match stepFault? options.indentStep (known && target.nests argument) with
  | some fault => (.mk tracer function arguments [] none, .error fault)
  | none =>
    if known then (.mk tracer function arguments inner returned, target.outcome argument)
    else
      (.mk tracer function arguments [] none,
        .error (.unexpectedArgument function (keyword.getD "")))

end Target

end Junctor
