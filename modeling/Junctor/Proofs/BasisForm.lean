import Junctor.Formula.Basis
import Junctor.Proofs.FunctionValues
import Junctor.Proofs.PrintedForm

/-!
# The Basis Form of a Formula

Rewriting replaces a connective outside the basis by a formula that has its operands more
than once, and puts negations right above them. What comes out may be far larger, with
negations of negations all over it, but it is over the basis, and the rules leave a formula
over the basis as it is. The rules lose no variable either: each of them has both operands on
its right-hand side.

The printed form of what comes out is read back, so that all of this carries over to texts.

## Main results

* `Formula.overBasis_toBasis`, `Formula.OverBasis.toBasis_eq`: the basis form is over the
  basis, and rewriting it changes nothing.
* `Formula.names_toBasis`: the basis form has the same variables.
* `Formula.OverBasis.mem_print`: the characters of a printed formula over the basis.
* `BooleanFunction.names_of_parse`: a function has the variables of its formula.
* `BooleanFunction.exists_same_rows`: texts with the same variables and values give the same
  truth table.
* `toBasisText_normalizes`: all of this in one statement.
-/

namespace Junctor

/-! ### Connectives of the basis -/

/-- Is the connective in the basis? -/
def Connective.isBasic : Connective → Bool
  | and => true
  | or => true
  | xor => false
  | implies => false
  | iff => false

/-- There is no rule for the connectives of the basis. -/
theorem Connective.expand_of_isBasic {α : Type} {c : Connective} (basic : c.isBasic = true)
    (neg : α → α) (join : Connective → α → α → α) (a b : α) :
    c.expand neg join a b = join c a b := by
  cases c <;> first | rfl | cases basic

namespace Formula

/-- A formula is **over the basis** if every connective in it is a conjunction or a
disjunction; negations are free. -/
inductive OverBasis : Formula → Prop where
  | var (name : String) : OverBasis (.var name)
  | const (value : Bool) : OverBasis (.const value)
  | not {a : Formula} (inside : OverBasis a) : OverBasis (.not a)
  | binary {c : Connective} {a b : Formula} (basic : c.isBasic = true) (left : OverBasis a)
      (right : OverBasis b) : OverBasis (.binary c a b)

/-- A rule leads into the basis. -/
theorem OverBasis.expand {a b : Formula} (left : a.OverBasis) (right : b.OverBasis)
    (c : Connective) : (c.expand .not .binary a b).OverBasis := by
  cases c with
  | and => exact left.binary rfl right
  | or => exact left.binary rfl right
  | xor => exact .binary rfl (left.binary rfl right.not) (left.not.binary rfl right)
  | implies => exact left.not.binary rfl right
  | iff => exact .binary rfl (left.binary rfl right) (left.not.binary rfl right.not)

/-- The basis form is **over the basis**. -/
theorem overBasis_toBasis (f : Formula) : f.toBasis.OverBasis := by
  induction f with
  | var name => exact .var name
  | const value => exact .const value
  | not a ih => exact ih.not
  | binary c a b ihA ihB => exact ihA.expand ihB c

/-- A formula over the basis is its own basis form, since the connectives of the basis expand
to themselves. -/
theorem OverBasis.toBasis_eq {f : Formula} (inside : f.OverBasis) : f.toBasis = f := by
  induction inside with
  | var name => rfl
  | const value => rfl
  | not _ ih => rw [toBasis, ih]
  | binary basic _ _ ihLeft ihRight =>
      rw [toBasis, Connective.expand_of_isBasic basic, ihLeft, ihRight]

/-! ### Variables -/

/-- The variables of a formula are strictly sorted. -/
theorem pairwise_names (f : Formula) : f.names.Pairwise (· < ·) := by
  induction f with
  | var name => exact List.pairwise_singleton _ _
  | const value => exact .nil
  | not a ih => exact ih
  | binary c a b _ ihB => exact pairwise_unionNames a.names ihB

/-- A rule keeps the variables of both operands. -/
theorem mem_names_expand {c : Connective} {a b : Formula} {x : String} :
    x ∈ (c.expand .not .binary a b).names ↔ x ∈ a.names ∨ x ∈ b.names := by
  cases c <;> simp only [Connective.expand, names, mem_unionNames, or_self]

/-- The basis form has the same variables: the expansions repeat operands, but they drop
none. -/
theorem names_toBasis (f : Formula) : f.toBasis.names = f.names := by
  refine (pairwise_names _).eq_of_mem_iff (pairwise_names f) fun x => ?_
  induction f with
  | var name => rfl
  | const value => rfl
  | not a ih => exact ih
  | binary c a b ihA ihB => rw [toBasis, mem_names_expand, ihA, ihB, names, mem_unionNames]

/-! ### Characters -/

/-- The signs of the formulas over the basis, besides which their printed forms hold only
words. -/
def basisSigns : List Char := ['(', ')', ' ', '¬', '∧', '∨']

/-- The symbol of a connective of the basis is one of the signs. -/
theorem mem_basisSigns_of_isBasic {c : Connective} (basic : c.isBasic = true) {d : Char}
    (mem : d ∈ c.symbol.toList) : d ∈ basisSigns := by
  cases c with
  | and => exact List.mem_singleton.mp mem ▸ by decide
  | or => exact List.mem_singleton.mp mem ▸ by decide
  | _ => cases basic

/-- In a printed formula over the basis there are only the characters of names and constants,
blanks, parentheses and the signs of the basis. -/
theorem OverBasis.mem_print {f : Formula} (inside : f.OverBasis) (named : f.Named) {d : Char}
    (mem : d ∈ f.print.toList) : Text.isAlphanumeric d = true ∨ d ∈ basisSigns := by
  induction inside with
  | var name => exact .inl (Text.isWord_iff.mp (named name (by simp [names])).word d mem)
  | const value =>
      have word : Text.isWord (Token.constantText value) = true := by cases value <;> decide
      exact .inl (Text.isWord_iff.mp word d mem)
  | @not a _ ih =>
      rw [toList_print_not] at mem
      have parts : d ∈ basisSigns ∨ d ∈ a.print.toList := by
        split at mem <;> grind [basisSigns]
      exact parts.elim .inr (ih named)
  | @binary c a b basic _ _ ihLeft ihRight =>
      rw [toList_print_binary] at mem
      have parts : d ∈ basisSigns ∨ d ∈ c.symbol.toList ∨ d ∈ a.print.toList ∨
          d ∈ b.print.toList := by
        grind [basisSigns]
      rcases parts with sign | symbol | left | right
      · exact .inr sign
      · exact .inr (mem_basisSigns_of_isBasic basic symbol)
      · exact ihLeft named.of_binary.1 left
      · exact ihRight named.of_binary.2 right

/-- A sign outside the basis does not occur in a printed formula over it. -/
theorem OverBasis.not_mem_print {f : Formula} (inside : f.OverBasis) (named : f.Named) {d : Char}
    (sign : Text.isAlphanumeric d = false) (outside : d ∉ basisSigns) : d ∉ f.print.toList := by
  intro mem
  rcases inside.mem_print named mem with letter | known
  · rw [sign] at letter
    cases letter
  · exact outside known

end Formula

/-! ### Truth tables -/

/-- The variables of the function that a text gives are those of its formula, each of them
once and in order. -/
theorem BooleanFunction.names_of_parse {text : String} {f : Formula} {g : BooleanFunction}
    (parsed : Formula.parse text = .ok f) (made : ofFormula text = .ok g) : g.names = f.names := by
  obtain ⟨tree, again, -, sorted, named⟩ := ofFormula_eq_ok made
  obtain rfl := Except.ok.inj (parsed.symm.trans again)
  exact sorted.eq_of_mem_iff f.pairwise_names named

/-- Texts of formulas with the same variables and values give functions **with the same truth
table**, although the functions remember different texts. -/
theorem BooleanFunction.exists_same_rows {left right : String} {f h : Formula}
    (parsedLeft : Formula.parse left = .ok f) (parsedRight : Formula.parse right = .ok h)
    (names : h.names = f.names) (values : ∀ v, h.eval v = f.eval v) :
    ∃ g k, ofFormula left = .ok g ∧ ofFormula right = .ok k ∧ k.names = g.names ∧
      k.rows = g.rows := by
  obtain ⟨g, madeLeft, -, -, resultsLeft⟩ := ofFormula_of_parse parsedLeft
  obtain ⟨k, madeRight, -, -, resultsRight⟩ := ofFormula_of_parse parsedRight
  have sameNames : k.names = g.names := by
    rw [names_of_parse parsedRight madeRight, names_of_parse parsedLeft madeLeft, names]
  have sameResults : k.results = g.results := by
    rw [resultsRight, resultsLeft, sameNames]
    simp only [values]
  exact ⟨g, k, madeLeft, madeRight, sameNames, by rw [rows, rows, sameNames, sameResults]⟩

/-! ### Texts -/

/-- The text that rewriting gives is the printed basis form of what was parsed, which is read
back. -/
theorem parse_print_toBasis {text : String} {f : Formula} (parsed : Formula.parse text = .ok f) :
    f.toBasis.Named ∧ toBasisText text = .ok f.toBasis.print ∧
      Formula.parse f.toBasis.print = .ok f.toBasis := by
  have named : f.toBasis.Named := by
    rw [Formula.Named, f.names_toBasis]
    exact Formula.named_of_parse parsed
  exact ⟨named, bind_eq_ok_iff.mpr ⟨f, parsed, rfl⟩, Formula.parse_print_of_named named⟩

/-- Rewriting to the basis **gives a normal form**: of a text that is parsed it makes a text
without the other connectives that is parsed again, has the same variables, values and truth
table, and is not changed by rewriting. -/
theorem toBasisText_normalizes {text : String} {f : Formula}
    (parsed : Formula.parse text = .ok f) :
    ∃ basis h, toBasisText text = .ok basis ∧ Formula.parse basis = .ok h ∧
      (∀ c ∈ basis.toList, c ≠ '^' ∧ c ≠ '→' ∧ c ≠ '↔') ∧ toBasisText basis = .ok basis ∧
      (∃ g k, BooleanFunction.ofFormula text = .ok g ∧ BooleanFunction.ofFormula basis = .ok k ∧
        k.names = g.names ∧ k.rows = g.rows) ∧
      h.names = f.names ∧ ∀ v, h.eval v = f.eval v := by
  obtain ⟨named, rewritten, again⟩ := parse_print_toBasis parsed
  have fixed : toBasisText f.toBasis.print = .ok f.toBasis.print := by
    rw [(parse_print_toBasis again).2.1, f.overBasis_toBasis.toBasis_eq]
  have free : ∀ c ∈ f.toBasis.print.toList, c ≠ '^' ∧ c ≠ '→' ∧ c ≠ '↔' := by
    intro c mem
    refine ⟨?_, ?_, ?_⟩ <;> rintro rfl
    all_goals exact f.overBasis_toBasis.not_mem_print named (by decide +kernel) (by decide) mem
  have values : ∀ v, f.toBasis.eval v = f.eval v := fun v => f.eval_toBasis v
  exact ⟨f.toBasis.print, f.toBasis, rewritten, again, free, fixed,
    BooleanFunction.exists_same_rows parsed again f.names_toBasis values, f.names_toBasis, values⟩

/-- `¬a ^ b` becomes `((¬a ∧ ¬b) ∨ (¬(¬a) ∧ b))`, where a negation is negated, and stays so. -/
theorem toBasisText_normalizes_exclusive_or :
    toBasisText "¬a ^ b" = .ok "((¬a ∧ ¬b) ∨ (¬(¬a) ∧ b))" ∧
      toBasisText "((¬a ∧ ¬b) ∨ (¬(¬a) ∧ b))" = .ok "((¬a ∧ ¬b) ∨ (¬(¬a) ∧ b))" ∧
      ∃ g k, BooleanFunction.ofFormula "¬a ^ b" = .ok g ∧
        BooleanFunction.ofFormula "((¬a ∧ ¬b) ∨ (¬(¬a) ∧ b))" = .ok k ∧ k.names = g.names ∧
        k.rows = g.rows := by
  have parsed : Formula.parse "¬a ^ b" = .ok (.binary .xor (.not (.var "a")) (.var "b")) :=
    eq_ok_of_toOption (by decide +kernel)
  have known : toBasisText "¬a ^ b" = .ok "((¬a ∧ ¬b) ∨ (¬(¬a) ∧ b))" :=
    eq_ok_of_toOption (by decide +kernel)
  obtain ⟨basis, h, rewritten, -, -, fixed, table, -⟩ := toBasisText_normalizes parsed
  obtain rfl := Except.ok.inj (known.symm.trans rewritten)
  exact ⟨known, fixed, table⟩

end Junctor
