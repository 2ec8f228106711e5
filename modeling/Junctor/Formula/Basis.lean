import Junctor.Formula.Parse

/-!
# The Basis ¬, ∧, ∨

Exclusive or, implication and equivalence are expressed by negation, conjunction and
disjunction:

* `a ^ b` becomes `(a ∧ ¬b) ∨ (¬a ∧ b)`,
* `a → b` becomes `¬a ∨ b`,
* `a ↔ b` becomes `(a ∧ b) ∨ (¬a ∧ ¬b)`.

The rules are stated once, over any operations for the signs, so that formulas, hand-made
trees and truth values all follow them.

## Main results

* `Connective.expand`: the three rules.
* `Formula.toBasis`: a formula over the basis; `Formula.eval_toBasis`: it means the same.
* `toBasisText`: the text of a formula over the basis.
-/

namespace Junctor

/-- The **rules** for the connectives outside the basis, over operations `neg` for the
negation and `join` for the binary connectives. -/
def Connective.expand {α : Type} (neg : α → α) (join : Connective → α → α → α) :
    Connective → α → α → α
  | .xor, a, b => join .or (join .and a (neg b)) (join .and (neg a) b)
  | .implies, a, b => join .or (neg a) b
  | .iff, a, b => join .or (join .and a b) (join .and (neg a) (neg b))
  | c, a, b => join c a b

/-- The rules keep the truth tables. -/
theorem Connective.expand_apply (c : Connective) (a b : Bool) :
    c.expand (!·) Connective.apply a b = c.apply a b := by
  cases c <;> cases a <;> cases b <;> rfl

namespace Formula

/-- A formula **over the basis** that means the same as the given one. The operands are
rewritten first, and then the connective above them is expanded. -/
def toBasis : Formula → Formula
  | var name => .var name
  | const value => .const value
  | not a => .not a.toBasis
  | binary c a b => c.expand .not .binary a.toBasis b.toBasis

/-- A formula and its form over the basis have the **same truth value**, since this is so for
the expansion of each connective. -/
theorem eval_toBasis (valuation : String → Bool) (f : Formula) :
    f.toBasis.eval valuation = f.eval valuation := by
  induction f with
  | var name => rfl
  | const value => rfl
  | not a ih => simp only [toBasis, eval, ih]
  | binary c a b ihA ihB =>
    rw [eval, ← ihA, ← ihB, ← Connective.expand_apply]
    cases c <;> rfl

end Formula

/-- The **text** of a formula over the basis that means the same as the given one. -/
def toBasisText (formula : String) : Except FormulaError String := do
  return (← Formula.parse formula).toBasis.print

end Junctor
