import Junctor.Shown

/-!
# Traces of Calls

A trace has a line for the begin of every call and, if wanted, two for its return. All calls
share one counter for the indentation. A call writes its first line at the counter's value,
raises the counter by the step of its tracer while its body runs, and lowers it again however
the body ends.

## Main results

* `Call.write`: the text of a call and the counter afterwards.
* `Call.write_counter`: the counter is afterwards what it was before.
-/

namespace Junctor

/-- How calls are **traced**: what is shown of them and how far they are indented. -/
structure Tracer where
  /-- How much further the calls inside are indented. -/
  indentStep : Int := 2
  /-- Is the return of a call shown? -/
  showReturn : Bool := true
  /-- Are wide values spread over several lines? -/
  spreads : Bool := false

/-- A value as the tracer **writes it**. -/
def Tracer.write (tracer : Tracer) (shown : Shown) : String :=
  if tracer.spreads then shown.spread else shown.line

/-- A traced **call**: its tracer, the function, the arguments as they are shown, the traced
calls inside, and the value that it returned as it is shown, unless it ended in an error. -/
inductive Call where
  | mk (tracer : Tracer) (function arguments : String) (inner : List Call)
    (returned : Option String)

namespace Call

/-- The indentation at a value of the counter. -/
def indentation (counter : Int) : String := String.ofList (List.replicate counter.toNat ' ')

/-- The line for the begin of a call, with the arguments as they are shown. -/
def beginLine (counter : Int) (function arguments : String) : String :=
  indentation counter ++ "--> " ++ function ++ "(" ++ arguments ++ ")\n"

/-- The line for the return of a call, followed by an empty one. -/
def returnLine (counter : Int) (function value : String) : String :=
  indentation counter ++ "<-- " ++ function ++ " == " ++ value ++ "\n\n"

/-- What is written when a call ends, which is nothing if it ends in an error or if returns
are not shown. -/
def endText (tracer : Tracer) (counter : Int) (function : String) : Option String → String
  | some value => if tracer.showReturn then returnLine counter function value else ""
  | none => ""

mutual

/-- The **text** of a call, and the counter afterwards. What happens inside is written
between its begin line and its end line, further to the right. -/
def write (counter : Int) : Call → String × Int
  | mk tracer function arguments inner returned =>
    let (body, reached) := writeAll (counter + tracer.indentStep) inner
    (beginLine counter function arguments ++ body ++ endText tracer counter function returned,
      reached - tracer.indentStep)

/-- The text of calls one after the other, and the counter afterwards. -/
def writeAll (counter : Int) : List Call → String × Int
  | [] => ("", counter)
  | call :: calls =>
    let (first, reached) := write counter call
    let (rest, reached) := writeAll reached calls
    (first ++ rest, reached)

end

mutual

/-- After a call the counter **is what it was before**. -/
theorem write_counter (counter : Int) : ∀ call : Call, (write counter call).2 = counter
  | mk tracer _ _ inner _ => by
    rw [write]
    simp only [writeAll_counter (counter + tracer.indentStep) inner]
    omega

/-- After several calls the counter is what it was before. -/
theorem writeAll_counter (counter : Int) :
    ∀ calls : List Call, (writeAll counter calls).2 = counter
  | [] => rfl
  | call :: calls => by
    rw [writeAll]
    simp only [write_counter counter call, writeAll_counter counter calls]

end

end Call

end Junctor
