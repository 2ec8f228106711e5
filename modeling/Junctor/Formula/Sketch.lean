import Junctor.Expression
import Junctor.Formula.Basis
import Junctor.Shown

/-!
# Hand-Made Trees

A sketch is a tree that was put together by hand: any value may stand as the symbol between
two parts, and a part may be missing. The passes over formulas extend to sketches. They carry
an unknown symbol along, and they fail at a missing part; only the export, which has to know
what a symbol means, fails at an unknown one.

## Main results

* `Sketch.print`, `Sketch.toBasis`, `Sketch.names`, `Sketch.toFormula`: the passes.
* `Sketch.listing`: the tree written out with its constructors.
* `Sketch.print_ofFormula`, `Sketch.toFormula_ofFormula`: on formulas nothing fails, and the
  passes agree with those over formulas.
-/

namespace Junctor

/-- A tree that was **put together by hand**, so that parts may be missing and any value may
stand where the symbol of a connective belongs. -/
inductive Sketch where
  | missing
  | var (name : String)
  | const (value : Bool)
  | not (operand : Sketch)
  | binary (symbol : Value) (left right : Sketch)

instance : Inhabited Sketch := ⟨.missing⟩

namespace Sketch

/-- A formula as a sketch, in which every connective stands as its symbol. -/
def ofFormula : Formula → Sketch
  | .var name => .var name
  | .const value => .const value
  | .not a => .not (ofFormula a)
  | .binary c a b => .binary (.text c.symbol) (ofFormula a) (ofFormula b)

/-- The connective that a value stands for as a symbol, if it does for one. -/
def connective? : Value → Option Connective
  | .text symbol => Connective.ofSymbol? symbol
  | _ => none

/-- What is wrong with a symbol that stands for no connective: some values cannot even be
looked up. -/
def symbolFault : Value → Fault
  | .list items => .noKey (Value.typeName (.list items))
  | .record fields => .noKey (Value.typeName (.record fields))
  | symbol => .unknownSymbol symbol

/-! ### Shape -/

/-- Are two sketches the same tree, node by node? Symbols are compared as the values they
are. -/
def same : Sketch → Sketch → Bool
  | missing, missing => true
  | var x, var y => x == y
  | const a, const b => a == b
  | not a, not b => a.same b
  | binary s a b, binary t c d => s.same t && a.same c && b.same d
  | _, _ => false

/-- Is the root a binary node? -/
def isBinary : Sketch → Bool
  | binary _ _ _ => true
  | _ => false

/-- Is the root a negation? -/
def isUnary : Sketch → Bool
  | not _ => true
  | _ => false

/-- The name of the type of the root. -/
def typeName : Sketch → String
  | missing => Value.typeName .null
  | var _ => "Variable"
  | const _ => "Constant"
  | not _ => "Unary"
  | binary _ _ _ => "Binary"

/-- A symbol as it is shown. -/
def shownSymbol : Value → Shown
  | .text symbol => .text symbol
  | symbol => .word symbol.literal

/-- The tree as it is shown, with its constructors. -/
def shown : Sketch → Shown
  | missing => .word Value.null.literal
  | var name => .node (typeName (var name)) [("name", .text name)]
  | const value => .node (typeName (const value)) [("value", .word (Value.truthLiteral value))]
  | not a => .node (typeName (not a)) [("operand", a.shown)]
  | binary symbol a b =>
    .node (typeName (binary symbol a b))
      [("operator", shownSymbol symbol), ("left", a.shown), ("right", b.shown)]

/-- The tree **written out** on one line. -/
def listing (sketch : Sketch) : String := sketch.shown.line

/-! ### Passes -/

/-- A symbol as it is printed, if it can be written out. -/
def printedSymbol (symbol : Value) : Except Fault String :=
  if symbol.isWritable then .ok symbol.plain else .error .tooManyDigits

/-- The **printed form** of a sketch. A symbol is written between the parts that it joins. -/
def print : Sketch → Except Fault String
  | missing => .error .missingPart
  | var name => .ok name
  | const value => .ok (Token.constantText value)
  | not a => do
    let s ← a.print
    return if a.isBinary || a.isUnary then "¬(" ++ s ++ ")" else "¬" ++ s
  | binary symbol a b => do
    let left ← a.print
    let symbol ← printedSymbol symbol
    let right ← b.print
    return "(" ++ left ++ " " ++ symbol ++ " " ++ right ++ ")"

/-- A sketch with all known symbols **over the basis**; an unknown symbol stays. -/
def toBasis : Sketch → Except Fault Sketch
  | missing => .error .missingPart
  | var name => .ok (var name)
  | const value => .ok (const value)
  | not a => do return not (← a.toBasis)
  | binary symbol a b => do
    let left ← a.toBasis
    let right ← b.toBasis
    return match connective? symbol with
      | some c => c.expand not (fun c => binary (.text c.symbol)) left right
      | none => binary symbol left right

/-- The **variables** of a sketch, sorted and without repetition, unless a part of the sketch
is missing. -/
def names : Sketch → Except Fault (List String)
  | missing => .error .missingPart
  | var name => .ok [name]
  | const _ => .ok []
  | not a => a.names
  | binary _ a b => do
    let left ← a.names
    let right ← b.names
    return unionNames left right

/-- The **formula** that a sketch stands for. A symbol is looked up before the parts it
joins. -/
def toFormula : Sketch → Except Fault Formula
  | missing => .error .missingPart
  | var name => .ok (.var name)
  | const value => .ok (.const value)
  | not a => do return .not (← a.toFormula)
  | binary symbol a b =>
    match connective? symbol with
    | none => .error (symbolFault symbol)
    | some c => do
      let left ← a.toFormula
      let right ← b.toFormula
      return .binary c left right

/-- The column of the truth table of a sketch over its variables. -/
def table (sketch : Sketch) : Except Fault (List Bool) := do
  let formula ← sketch.toFormula
  return formula.toExpression.table (← sketch.names)

/-! ### Formulas as sketches -/

/-- A formula has a compound root exactly if its sketch is binary or a negation. -/
theorem isCompound_ofFormula (f : Formula) :
    ((ofFormula f).isBinary || (ofFormula f).isUnary) = f.isCompound := by
  cases f <;> rfl

/-- The printed form of a formula is that of its sketch, so that nothing is missing in a tree
that came from a text. -/
theorem print_ofFormula (f : Formula) : (ofFormula f).print = .ok f.print := by
  induction f with
  | var name => rfl
  | const value => rfl
  | not a ih =>
    simp only [ofFormula, print, ih, isCompound_ofFormula, Formula.print]
    rfl
  | binary c a b ihA ihB =>
    simp only [ofFormula, print, ihA, ihB, Formula.print]
    rfl

/-- A formula is **read back** from its sketch. -/
theorem toFormula_ofFormula (f : Formula) : (ofFormula f).toFormula = .ok f := by
  induction f with
  | var name => rfl
  | const value => rfl
  | not a ih =>
    simp only [ofFormula, toFormula, ih]
    rfl
  | binary c a b ihA ihB =>
    simp only [ofFormula, toFormula, connective?, Connective.ofSymbol?_symbol, ihA, ihB]
    rfl

end Sketch

end Junctor
