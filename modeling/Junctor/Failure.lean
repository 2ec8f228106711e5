/-!
# Reporting Failures

In interactive use a failure that is a normal event, such as a malformed formula, is reported
on one line, and any other is handed on to the handler that was there before. A shell with a
handler of its own reports every failure that it is given.

## Main results

* `Failure.message`: the message, which is never empty.
* `Failure.report`: what is written, and whether the failure is handed on.
-/

namespace Junctor

/-- The **kinds** of failure that are told apart when one is reported. -/
inductive FailureKind where
  | parseError
  | argumentError
  | noTraceException
  | valueError
  | runtimeError
  | typeError
  deriving DecidableEq

namespace FailureKind

/-- The name of a kind. -/
def name : FailureKind → String
  | parseError => "ParseError"
  | argumentError => "ArgumentError"
  | noTraceException => "NoTraceException"
  | valueError => "ValueError"
  | runtimeError => "RuntimeError"
  | typeError => "TypeError"

/-- Every kind. -/
def all : List FailureKind :=
  [parseError, argumentError, noTraceException, valueError, runtimeError, typeError]

/-- The kind with a name. -/
def ofName? (name : String) : Option FailureKind := all.find? (·.name == name)

/-- Is a failure of this kind a normal event, of which one line is enough? -/
def isBrief : FailureKind → Bool
  | parseError => true
  | argumentError => true
  | noTraceException => true
  | valueError => false
  | runtimeError => false
  | typeError => false

/-- Is a failure of this kind about an argument's value? -/
def isValueError : FailureKind → Bool
  | argumentError => true
  | valueError => true
  | _ => false

end FailureKind

/-- A **failure** of some kind, with the text that came with it. -/
structure Failure where
  /-- The kind of failure. -/
  kind : FailureKind
  /-- What was said about it, possibly nothing. -/
  text : String

namespace Failure

/-- The **message** for a user: the text, or else the name of the kind. -/
def message (failure : Failure) : String :=
  if failure.text = "" then failure.kind.name else failure.text

/-- The report on a failure on one line: its kind and its message. -/
def line (failure : Failure) : String :=
  failure.kind.name ++ ": " ++ failure.message ++ "\n"

/-- What is **written** about a failure, and whether it is **handed on**; `custom` tells if the
shell has a handler of its own. -/
def report (failure : Failure) (custom : Bool) : String × Bool :=
  if custom || failure.kind.isBrief then (failure.line, false) else ("", true)

end Failure

end Junctor
