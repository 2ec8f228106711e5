import Junctor.ReversePolish.Evaluation
import Junctor.Value

/-!
# Assignments

An assignment binds names to values, each name once and in the order in which the names came
up. Evaluation takes every value as true or false.

## Main results

* `collect`: the bindings of a list of pairs, in which a name may come up again.
* `Assignment.valuation`: an assignment as a valuation.
* `Assignment.describe`: an assignment in words; `Assignment.isWritable`: can it be put in
  words?
-/

namespace Junctor

/-- An assignment binds names to values. -/
abbrev Assignment := List (String × Value)

/-- Bind a name: in the place that it has, or else behind all others. -/
def bindName {α : Type} (name : String) (value : α) : List (String × α) → List (String × α)
  | [] => [(name, value)]
  | (first, old) :: rest =>
    if first = name then (first, value) :: rest else (first, old) :: bindName name value rest

/-- The **bindings** of a list of pairs: a name keeps its first place and has its last
value. -/
def collect {α : Type} (pairs : List (String × α)) : List (String × α) :=
  pairs.foldl (fun bindings pair => bindName pair.1 pair.2 bindings) []

/-- A truth value in words. -/
def truthWord (b : Bool) : String := if b then "true" else "false"

namespace Assignment

/-- The **truth values** that an assignment gives to the variables: a value counts as true or
false whatever its type, and a name that the assignment leaves out has none. -/
def valuation (assignment : Assignment) : Valuation :=
  fun name => (assignment.lookup name).map Value.isTrue

/-- An assignment of truth values as an assignment. -/
def ofTruth (bindings : List (String × Bool)) : Assignment :=
  bindings.map fun (name, value) => (name, .truth value)

/-- A value in words: the word of a truth value, and the plain text of any other value in
lower case. -/
def word : Value → String
  | .truth b => truthWord b
  | value => Text.lowercase value.plain

/-- Can an assignment be put in words? All its values have to be **written out**. -/
def isWritable (assignment : Assignment) : Bool :=
  assignment.all fun (_, value) => value.isWritable

/-- Truth values can always be written out. -/
@[simp] theorem isWritable_ofTruth (bindings : List (String × Bool)) :
    (ofTruth bindings).isWritable = true := by
  simp [isWritable, ofTruth, Value.isWritable]

/-- An assignment in words: the bindings in the order in which they were made, each as
`name = value`, with commas in between. -/
def describe (assignment : Assignment) : String :=
  ", ".intercalate (assignment.map fun (name, value) => name ++ " = " ++ word value)

end Assignment

end Junctor
