import Junctor.Proofs.InfixOrder
import Junctor.Proofs.Reading

/-!
# Printed Formulas Are Read Back

A formula is printed with more parentheses than the grammar needs: every binary formula
stands in a pair, and so does everything under a negation that is not an atom. What is
printed is therefore derived by the small grammar, in which a negation is never negated, and
the yard puts such tokens in the order of the formula. The scan finds these tokens in the
printed text because a name or a constant is always followed by a sign, a space or the end.

Only the names of the variables are in the way: a formula that was put together by hand may
have variables whose names are no names, and these are read as something else.

## Main results

* `Formula.reads_print`: the tokens of the printed form.
* `Formula.derives_printedTokens`: they are derived by the small grammar.
* `Formula.parse_print_of_named`: the printed form is read back.
* `Formula.print_keeps_formula`: printing loses nothing.
-/

namespace Junctor

namespace Formula

/-- The variables of the formula have names that can be read. -/
def Named (f : Formula) : Prop := ∀ x ∈ f.names, IsName x

/-- The parts of a binary formula are named if it is. -/
theorem Named.of_binary {c : Connective} {a b : Formula} (named : (binary c a b).Named) :
    a.Named ∧ b.Named :=
  ⟨fun x mem => named x (by simp [names, mem]), fun x mem => named x (by simp [names, mem])⟩

/-! ### The tokens of the printed form -/

/-- The tokens of the printed form of a formula, parentheses included. -/
def printedTokens : Formula → List Token
  | var name => [.var name]
  | const value => [.const value]
  | not a =>
    .operator .negation ::
      if a.isCompound then .openParen :: a.printedTokens ++ [.closeParen] else a.printedTokens
  | binary c a b =>
    .openParen :: (a.printedTokens ++ .operator (.binary c) :: b.printedTokens) ++ [.closeParen]

/-- The tokens of the printed form are **derived by the small grammar**, as an atom unless
the formula is a negation. -/
theorem derives_printedTokens (f : Formula) :
    (f.isCompound = false → Derives false 5 f.printedTokens f) ∧
    Derives false 4 f.printedTokens f := by
  induction f with
  | var name => exact ⟨fun _ => .var name, (Derives.var name).unsigned⟩
  | const value => exact ⟨fun _ => .const value, (Derives.const value).unsigned⟩
  | not a ih =>
      refine ⟨nofun, ?_⟩
      rw [printedTokens]
      cases compound : a.isCompound with
      | true => exact ih.2.lowest.paren.not
      | false => exact (ih.1 compound).not
  | binary c a b ihA ihB =>
      refine ⟨nofun, ?_⟩
      obtain ⟨level, joins⟩ := c.exists_joins
      have small : 1 ≤ level ∧ level ≤ 3 := by cases joins <;> decide
      have left := ihA.2.lower_le small.1 (by omega)
      have right := ihB.2.lower_le (by omega) (by omega : level + 1 ≤ 4)
      exact (left.binary joins right).lowest.paren.unsigned

/-! ### Reading the printed form -/

/-- The printed form of a negation, character by character. -/
theorem toList_print_not (a : Formula) :
    (not a).print.toList =
      '¬' :: if a.isCompound then '(' :: (a.print.toList ++ [')']) else a.print.toList := by
  rw [print]
  split <;> simp only [String.toList_append] <;> rfl

/-- The printed form of a binary formula, character by character. -/
theorem toList_print_binary (c : Connective) (a b : Formula) :
    (binary c a b).print.toList =
      '(' :: (a.print.toList ++ ' ' :: (c.symbol.toList ++ ' ' :: (b.print.toList ++ [')']))) := by
  rw [print]
  simp only [String.toList_append, List.append_assoc]
  rfl

/-- The printed form is read as its tokens, provided that the variables have names. -/
theorem reads_print {f : Formula} (named : f.Named) : Lexer.Reads f.print f.printedTokens := by
  induction f with
  | var name => exact .name (named name (by simp [names]))
  | const value => exact .constant value
  | not a ih =>
      rw [print, printedTokens]
      split
      · have pieces : "¬(" ++ a.print ++ ")" = "¬" ++ ("(" ++ a.print ++ ")") := by
          simp only [← String.append_assoc]
          rfl
        exact pieces ▸ (ih named).enclosed.negated
      · exact (ih named).negated
  | binary c a b ihA ihB =>
      obtain ⟨namedA, namedB⟩ := named.of_binary
      have pieces : (binary c a b).print =
          "(" ++ (a.print ++ (" " ++ c.symbol ++ " ") ++ b.print) ++ ")" := by
        simp only [print, String.append_assoc]
      exact pieces ▸ ((ihA namedA).joined (ihB namedB) c).enclosed

/-- The printed form of a formula whose variables have names **is read back** as this
formula. -/
theorem parse_print_of_named {f : Formula} (named : f.Named) : parse f.print = .ok f :=
  Written.parse_eq_ok ⟨f.printedTokens, reads_print named, f.derives_printedTokens.2⟩

/-- The variables of a formula that was parsed have names. -/
theorem named_of_parse {text : String} {f : Formula} (parsed : parse text = .ok f) : f.Named :=
  fun _ mem => isName_of_mem_names parsed mem

/-- Printing **keeps the formula**: with names for its variables it is read back from its
printed form, so that different formulas are printed differently, and whatever was parsed
once is parsed again from its printed form. -/
theorem print_keeps_formula :
    (∀ f : Formula, f.Named → parse f.print = .ok f) ∧
      (∀ f g : Formula, f.Named → g.Named → f.print = g.print → f = g) ∧
      ∀ text f, parse text = .ok f → parse f.print = .ok f := by
  refine ⟨fun f named => parse_print_of_named named, fun f g namedF namedG same => ?_,
    fun text f parsed => parse_print_of_named (named_of_parse parsed)⟩
  have again := parse_print_of_named namedF
  rw [same, parse_print_of_named namedG] at again
  exact (Except.ok.inj again).symm

/-- A formula with negations of negations on both sides of a conjunction is read back from
`¬(¬((a ∧ ¬(¬b))))`. -/
theorem print_keeps_formula_negations :
    ∃ f : Formula, f = .not (.not (.binary .and (.var "a") (.not (.not (.var "b"))))) ∧
      f.print = "¬(¬((a ∧ ¬(¬b))))" ∧ parse "¬(¬((a ∧ ¬(¬b))))" = .ok f := by
  have named : Named (.not (.not (.binary .and (.var "a") (.not (.not (.var "b")))))) := by
    intro x mem
    have either : x = "a" ∨ x = "b" := by simpa [names] using mem
    rcases either with rfl | rfl
    · exact ⟨by decide +kernel, by decide +kernel, by decide +kernel⟩
    · exact ⟨by decide +kernel, by decide +kernel, by decide +kernel⟩
  have printed : print (.not (.not (.binary .and (.var "a") (.not (.not (.var "b")))))) =
      "¬(¬((a ∧ ¬(¬b))))" := by
    decide +kernel
  exact ⟨_, rfl, printed, printed ▸ print_keeps_formula.1 _ named⟩

end Formula

end Junctor
