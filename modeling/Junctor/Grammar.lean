import Junctor.Formula

/-!
# The Grammar of Formulas

The grammar says which token lists are formulas and which tree each of them stands for. It
has five levels:

* level 1 joins formulas by `→` and `↔`, level 2 by `∨` and `^`, level 3 by `∧`;
* level 4 negates, and level 5 has the variables, the constants and the formulas in
  parentheses.

A binary connective takes its left operand from its own level and its right one from the
next, so that operators of one level group to the left. The grammar comes in two sizes: in
the small one a negation applies to level 5, and in the large one it may be repeated.

The levels are laid down here, apart from the precedences by which operators wait for each
other; that the two agree is a lemma.

## Main results

* `Joins`: the level of a connective; `Joins.precedence_eq`: it is the precedence.
* `Derives`: a token list stands for a formula at some level.
* `Derives.lower_le`, `Derives.lowest`: a formula of a level is one of every level below.
-/

namespace Junctor

/-- The connectives that **join formulas** at a level, which are those of one precedence. -/
inductive Joins : Nat → Connective → Prop where
  | implies : Joins 1 .implies
  | iff : Joins 1 .iff
  | or : Joins 2 .or
  | xor : Joins 2 .xor
  | and : Joins 3 .and

/-- The level at which a connective joins formulas is its precedence, which ties the grammar
to the reordering. -/
theorem Joins.precedence_eq {level : Nat} {c : Connective} (joins : Joins level c) :
    c.precedence = level := by
  cases joins <;> rfl

/-- The tokens **stand for the formula** at a level; `repeated` allows a negation of a
negation. -/
inductive Derives (repeated : Bool) : Nat → List Token → Formula → Prop where
  /-- A variable is an atom. -/
  | var (name : String) : Derives repeated 5 [.var name] (.var name)
  /-- A constant is an atom. -/
  | const (value : Bool) : Derives repeated 5 [.const value] (.const value)
  /-- A formula in parentheses is an atom. -/
  | paren {ts : List Token} {f : Formula} (inner : Derives repeated 1 ts f) :
      Derives repeated 5 (.openParen :: ts ++ [.closeParen]) f
  /-- An atom may be negated. -/
  | not {ts : List Token} {f : Formula} (atom : Derives repeated 5 ts f) :
      Derives repeated 4 (.operator .negation :: ts) (.not f)
  /-- In the large grammar a negation may be negated. -/
  | notAgain {ts : List Token} {f : Formula} (large : repeated = true)
      (negated : Derives repeated 4 ts f) :
      Derives repeated 4 (.operator .negation :: ts) (.not f)
  /-- Two formulas may be joined. -/
  | binary {level : Nat} {c : Connective} {ts us : List Token} {f g : Formula}
      (joins : Joins level c) (left : Derives repeated level ts f)
      (right : Derives repeated (level + 1) us g) :
      Derives repeated level (ts ++ .operator (.binary c) :: us) (.binary c f g)
  /-- A formula of a level is one of the level below. -/
  | lower {level : Nat} {ts : List Token} {f : Formula} (least : 1 ≤ level) (greatest : level ≤ 4)
      (above : Derives repeated (level + 1) ts f) : Derives repeated level ts f

namespace Derives

/-- The levels of the grammar are five. -/
theorem level_bounds {repeated : Bool} {level : Nat} {ts : List Token} {f : Formula}
    (d : Derives repeated level ts f) : 1 ≤ level ∧ level ≤ 5 := by
  induction d with
  | binary joins => cases joins <;> decide
  | lower least greatest _ ih => omega
  | _ => decide

/-- A formula of a level is one **of every level below**. -/
theorem lower_le {repeated : Bool} {low level : Nat} {ts : List Token} {f : Formula}
    (d : Derives repeated level ts f) (least : 1 ≤ low) (le : low ≤ level) :
    Derives repeated low ts f := by
  obtain ⟨k, rfl⟩ := Nat.exists_eq_add_of_le le
  induction k with
  | zero => exact d
  | succ k ih =>
      have bounds := d.level_bounds
      have next : Derives repeated (low + k) ts f := .lower (by omega) (by omega) d
      exact ih next (by omega)

/-- A formula of any level is one **of the lowest**. -/
theorem lowest {repeated : Bool} {level : Nat} {ts : List Token} {f : Formula}
    (d : Derives repeated level ts f) : Derives repeated 1 ts f :=
  d.lower_le (Nat.le_refl 1) d.level_bounds.1

/-- An atom counts as if it were negated. -/
theorem unsigned {repeated : Bool} {ts : List Token} {f : Formula}
    (atom : Derives repeated 5 ts f) : Derives repeated 4 ts f :=
  atom.lower_le (by omega) (by omega)

end Derives

end Junctor
