import Mathlib.Data.Bool.Count
import Mathlib.Tactic.Ring
import Junctor.Proofs.NormalForms

/-!
# The Cost of a Function

The cost of a function is read off the texts of its normal forms: the variables are counted
among the tokens of both, and the signs of the connective inside the terms among the
characters. Joining texts adds up what is counted in them. So one lemma about chains of texts
is used twice, for a term, where the sign stands between the literals, and for the whole
form, where another connective stands between the terms.

Every row has a term in one of the two forms, and all terms have as many literals as there
are variables. The two counts of literals therefore add up to a number in which the results
do not occur, and so do the counts of the connectives.

## Main results

* `Form.Counts.intercalate`: what is counted in a chain of texts.
* `Form.counts_perfect`: what is counted in a perfect normal form.
* `BooleanFunction.Made.cost_eq`: the cost of a function that was made.
* `BooleanFunction.cost_closed_form`: the cost, by the number of variables and of true results.
-/

namespace Junctor

/-! ### Counting in a text -/

namespace Form

/-- The sign that is counted in a form, which is that of the connective inside its terms. -/
def sign : Form → Char
  | disjunctive => '∧'
  | conjunctive => '∨'

/-- The sign of a form stands in no name. -/
theorem isAlphanumeric_sign (form : Form) : Text.isAlphanumeric form.sign = false := by
  cases form <;> decide +kernel

/-- A connective between texts holds the sign of a form if it is the one inside the terms. -/
theorem count_sign_between (form : Form) (c : Connective) :
    (" " ++ c.symbol ++ " ").toList.count form.sign = if c = form.inner then 1 else 0 := by
  cases form <;> cases c <;> decide +kernel

/-- The text **counts** `m` variables, among the tokens as which it is read, and `k` signs of
the form, among its characters. -/
structure Counts (form : Form) (s : String) (m k : Nat) : Prop where
  /-- The variables are counted among the tokens. -/
  tokens : ∃ ts, Lexer.Reads s ts ∧ ts.countP Token.isVariable = m
  /-- The signs are counted among the characters. -/
  signs : s.toList.count form.sign = k

namespace Counts

variable {form : Form} {s t : String} {m n k l : Nat}

/-- Equal numbers count the same. -/
theorem congr (h : form.Counts s m k) (same : m = n) (same' : k = l) : form.Counts s n l :=
  same ▸ same' ▸ h

/-- A name counts one variable. -/
theorem name {x : String} (name : IsName x) : form.Counts x 1 0 where
  tokens := ⟨_, .name name, rfl⟩
  signs := List.count_eq_zero.mpr (Text.not_mem_of_isWord name.word form.isAlphanumeric_sign)

/-- A constant counts nothing. -/
theorem constant (value : Bool) : form.Counts (Token.constantText value) 0 0 where
  tokens := ⟨_, .constant value, rfl⟩
  signs := by cases form <;> cases value <;> decide +kernel

/-- A negation adds nothing. -/
theorem negated (h : form.Counts s m k) : form.Counts ("¬" ++ s) m k where
  tokens := by
    obtain ⟨ts, reads, rfl⟩ := h.tokens
    exact ⟨_, reads.negated, List.countP_cons_of_neg (by decide)⟩
  signs := by
    have front : "¬".toList.count form.sign = 0 := by cases form <;> decide +kernel
    rw [String.toList_append, List.count_append, front, Nat.zero_add, h.signs]

/-- Parentheses add nothing. -/
theorem enclosed (h : form.Counts s m k) : form.Counts ("(" ++ s ++ ")") m k where
  tokens := by
    obtain ⟨ts, reads, rfl⟩ := h.tokens
    refine ⟨_, reads.enclosed, ?_⟩
    rw [Lexer.enclosed, List.countP_append, List.countP_cons_of_neg (by decide)]
    rfl
  signs := by
    have before : "(".toList.count form.sign = 0 := by cases form <;> decide +kernel
    have behind : ")".toList.count form.sign = 0 := by cases form <;> decide +kernel
    rw [String.toList_append, String.toList_append, List.count_append, List.count_append,
      before, behind, Nat.zero_add, Nat.add_zero, h.signs]

/-- Joining two texts adds up what they count, and the sign between them. -/
theorem joined (left : form.Counts s m k) (right : form.Counts t n l) (c : Connective) :
    form.Counts (s ++ (" " ++ c.symbol ++ " ") ++ t) (m + n)
      (k + (if c = form.inner then 1 else 0) + l) where
  tokens := by
    obtain ⟨ts, readsLeft, rfl⟩ := left.tokens
    obtain ⟨us, readsRight, rfl⟩ := right.tokens
    refine ⟨_, readsLeft.joined readsRight c, ?_⟩
    rw [List.countP_append, List.countP_cons_of_neg Bool.false_ne_true]
  signs := by
    rw [String.toList_append, String.toList_append, List.count_append, List.count_append,
      form.count_sign_between, left.signs, right.signs]

variable {α : Type} {text : α → String} {items : List α} {c : Connective}

/-- Joining texts that count the same to a first one adds this once for each of them. -/
theorem joined_intercalate (each : ∀ a ∈ items, form.Counts (text a) m k)
    (first : form.Counts s n l) :
    form.Counts ((" " ++ c.symbol ++ " ").intercalate (s :: items.map text)) (n + m * items.length)
      (l + (k + if c = form.inner then 1 else 0) * items.length) := by
  -- As in reading, what has been joined so far is the first text.
  induction items generalizing s n l with
  | nil =>
      rw [List.map_nil, String.intercalate_singleton]
      exact first
  | cons a items ih =>
      have next := first.joined (each a List.mem_cons_self) c
      have whole := ih (fun a mem => each a (List.mem_cons_of_mem _ mem)) next
      refine whole.congr ?_ ?_
      · rw [List.length_cons]
        ring
      · rw [List.length_cons]
        ring

/-- A chain of texts that count the same counts this **once for each of them**, and the signs
between them. -/
theorem intercalate (nonempty : items ≠ []) (each : ∀ a ∈ items, form.Counts (text a) m k)
    (c : Connective) :
    form.Counts ((" " ++ c.symbol ++ " ").intercalate (items.map text)) (m * items.length)
      (k * items.length + (if c = form.inner then 1 else 0) * (items.length - 1)) := by
  cases items with
  | nil => exact absurd rfl nonempty
  | cons a items =>
      have rest : ∀ a ∈ items, form.Counts (text a) m k :=
        fun a mem => each a (List.mem_cons_of_mem _ mem)
      have whole : form.Counts
          ((" " ++ c.symbol ++ " ").intercalate (text a :: items.map text)) _ _ :=
        joined_intercalate rest (each a List.mem_cons_self)
      refine whole.congr ?_ ?_
      · rw [List.length_cons]
        ring
      · rw [List.length_cons, Nat.add_sub_cancel]
        ring

end Counts

/-! ### Normal forms -/

/-- A literal counts one variable. -/
theorem counts_literal (form : Form) {x : String} (name : IsName x) (value : Cell) :
    form.Counts (form.literal x value) 1 0 := by
  unfold literal
  split
  · exact (Counts.name name).negated
  · exact .name name

variable {names : List String}

/-- A term counts all variables, and the signs between them. -/
theorem counts_term (form : Form) {row : Row} (aligned : row.IsOver names) (named : names ≠ [])
    (valid : ∀ x ∈ names, IsName x) :
    form.Counts (form.term row) names.length (names.length - 1) := by
  have long : (names.zip row.values).length = names.length := by
    rw [List.length_zip, aligned.length_values, Nat.min_self]
  have pairs : names.zip row.values ≠ [] := by
    rw [← List.length_pos_iff, long]
    exact List.length_pos_iff.mpr named
  have each : ∀ pair ∈ names.zip row.values, form.Counts (form.literal pair.1 pair.2) 1 0 :=
    fun pair mem => form.counts_literal (valid pair.1 (List.of_mem_zip mem).1) pair.2
  rw [term, aligned.names_eq]
  refine ((Counts.intercalate pairs each form.inner).enclosed).congr ?_ ?_
  · rw [long, Nat.one_mul]
  · rw [long, if_pos rfl, Nat.zero_mul, Nat.zero_add, Nat.one_mul]

/-- A perfect normal form counts all variables, and the signs between them, **once for each
of the rows that are selected**. -/
theorem counts_perfect (form : Form) {rows : List Row} (valid : ∀ x ∈ names, IsName x)
    (aligned : ∀ row ∈ rows, row.IsOver names) :
    form.Counts (form.perfect names rows) (names.length * rows.countP form.selectsRow)
      ((names.length - 1) * rows.countP form.selectsRow) := by
  have kept : ∀ row ∈ rows.filter form.selectsRow, row.IsOver names :=
    fun row mem => aligned row (List.mem_filter.mp mem).1
  rw [perfect, List.countP_eq_length_filter]
  generalize rows.filter form.selectsRow = chosen at kept ⊢
  cases chosen with
  | nil => exact .constant _
  | cons row rest =>
      by_cases unnamed : names = []
      · subst unnamed
        exact (Counts.constant _).congr (Nat.zero_mul _).symm (Nat.zero_mul _).symm
      · simp only [List.isEmpty_eq_false_iff.mpr unnamed, Bool.false_eq_true, if_false]
        have each : ∀ chosen ∈ row :: rest,
            form.Counts (form.term chosen) names.length (names.length - 1) :=
          fun chosen mem => form.counts_term (kept chosen mem) unnamed valid
        have apart : form.outer ≠ form.inner := by cases form <;> decide
        refine (Counts.intercalate (List.cons_ne_nil row rest) each form.outer).congr rfl ?_
        rw [if_neg apart, Nat.zero_mul, Nat.add_zero]

end Form

/-! ### The cost of functions -/

/-- Where a text counts variables, they are its literals, if it is written for some formula. -/
theorem Form.Counts.countLiterals_eq {form : Form} {s : String} {m k level : Nat} {tree : Formula}
    (counts : form.Counts s m k) (written : Formula.Written level s tree) :
    Cost.countLiterals s = .ok m := by
  obtain ⟨ts, reads, rfl⟩ := counts.tokens
  obtain ⟨us, same, derived⟩ := written
  obtain rfl : ts = us := reads.scan_eq.symm.trans same.scan_eq
  have read := reads.tokens_eq_ok derived
  rw [Cost.countLiterals, isBlankText_of_tokens read, if_neg Bool.false_ne_true, read]
  rfl

/-- The cost by counts: that of a function of n variables that is true in t rows. -/
def Cost.ofCounts (n t : Nat) : Cost where
  literals := n * 2 ^ n
  conjunctions := (n - 1) * t
  disjunctions := (n - 1) * (2 ^ n - t)

/-- The total cost depends on the number of variables only. -/
theorem Cost.total_ofCounts {n t : Nat} (le : t ≤ 2 ^ n) :
    (ofCounts n t).total = (2 * n - 1) * 2 ^ n := by
  have both : (n - 1) * t + (n - 1) * (2 ^ n - t) = (n - 1) * 2 ^ n := by
    rw [← Nat.mul_add, Nat.add_sub_cancel' le]
  have width : n + (n - 1) = 2 * n - 1 := by omega
  calc (ofCounts n t).total
      = n * 2 ^ n + ((n - 1) * t + (n - 1) * (2 ^ n - t)) := Nat.add_assoc _ _ _
    _ = (2 * n - 1) * 2 ^ n := by rw [both, ← Nat.add_mul, width]

namespace BooleanFunction

variable {f g : BooleanFunction}

/-- A form selects as many rows as have the result that it selects. -/
theorem countP_selectsRow (f : BooleanFunction) (form : Form) :
    f.rows.countP form.selectsRow = f.results.count form.selects := by
  have result (b : Bool) (names : List String) (index : Nat) :
      form.selectsRow (Row.ofIndex names index b) = (b == form.selects) := by
    rw [Form.selectsRow, Row.ofIndex]
    cases b <;> rfl
  have column : f.results.count form.selects =
      f.results.zipIdx.countP fun pair => pair.1 == form.selects := by
    conv => lhs; rw [← List.zipIdx_map_fst 0 f.results]
    exact List.countP_map
  rw [column, rows, List.countP_map]
  exact List.countP_congr fun pair _ => by rw [Function.comp, result]

/-- A normal form counts all variables once for each of the results that it selects. -/
theorem Made.counts_normalForm (made : f.Made) (form : Form) :
    form.Counts (f.normalForm form) (f.names.length * f.results.count form.selects)
      ((f.names.length - 1) * f.results.count form.selects) := by
  rw [← countP_selectsRow]
  exact form.counts_perfect (fun x => made.isName) fun row => isOver_of_mem_rows

/-- The results that are not true are false. -/
theorem Made.count_false (made : f.Made) :
    f.results.count false = 2 ^ f.names.length - f.results.count true := by
  rw [← made.length_results, ← List.count_false_add_count_true f.results, Nat.add_sub_cancel]

/-- A function that was made has **the cost by its counts**. -/
theorem Made.cost_eq (made : f.Made) :
    f.cost = .ok (.ofCounts f.names.length (f.results.count true)) := by
  obtain ⟨meaning, means⟩ := made.exists_means
  have literals (form : Form) : Cost.countLiterals (f.normalForm form) =
      .ok (f.names.length * f.results.count form.selects) := by
    obtain ⟨tree, written, -⟩ := made.exists_written_normalForm means form
    exact (made.counts_normalForm form).countLiterals_eq written
  have whole : f.names.length * f.results.count true + f.names.length * f.results.count false =
      f.names.length * 2 ^ f.names.length := by
    rw [← Nat.mul_add, List.count_true_add_count_false, made.length_results]
  have conjunctions := (made.counts_normalForm .disjunctive).signs
  have disjunctions := (made.counts_normalForm .conjunctive).signs
  rw [cost, Cost.ofForms, literals, literals]
  show Except.ok (Cost.mk _ _ _) = _
  rw [Cost.ofCounts, Except.ok.injEq, Cost.mk.injEq]
  exact ⟨whole, conjunctions, disjunctions.trans (congrArg _ made.count_false)⟩

/-- The cost of a formula is that of its function. -/
theorem costOfFormula_eq {text : String} (made : ofFormula text = .ok f) :
    costOfFormula text = .ok (.ofCounts f.names.length (f.results.count true)) := by
  rw [costOfFormula, made]
  show f.cost.mapError Fault.formula = _
  rw [Made.cost_eq (.formula made)]
  rfl

/-- The cost of a function that was made, from a formula or from its number, depends on **the
number of its variables and of its true results**, and the total cost on the variables alone.
Without variables there is no cost. Formulas with the same variables and as many true results
therefore cost the same. -/
theorem cost_closed_form :
    (∀ f : BooleanFunction, f.Made → ∃ cost, f.cost = .ok cost ∧
      (f.names.length = 0 → cost.literals = 0 ∧ cost.conjunctions = 0 ∧ cost.disjunctions = 0 ∧
        cost.total = 0) ∧
      (1 ≤ f.names.length →
        cost.literals = f.names.length * 2 ^ f.names.length ∧
        cost.conjunctions = (f.names.length - 1) * f.results.count true ∧
        cost.disjunctions =
          (f.names.length - 1) * (2 ^ f.names.length - f.results.count true) ∧
        cost.total = (2 * f.names.length - 1) * 2 ^ f.names.length)) ∧
    ∀ (left right : String) (f g : BooleanFunction), ofFormula left = .ok f →
      ofFormula right = .ok g → (∀ x, x ∈ f.names ↔ x ∈ g.names) →
      f.results.count true = g.results.count true →
      ∃ cost, costOfFormula left = .ok cost ∧ costOfFormula right = .ok cost ∧
        f.cost = .ok cost ∧ g.cost = .ok cost := by
  constructor
  · intro f made
    have total : (Cost.ofCounts f.names.length (f.results.count true)).total = _ :=
      Cost.total_ofCounts (made.length_results ▸ List.count_le_length)
    refine ⟨_, made.cost_eq, fun unnamed => ?_, fun _ => ⟨rfl, rfl, rfl, total⟩⟩
    rw [total, Cost.ofCounts, unnamed]
    exact ⟨Nat.zero_mul _, Nat.zero_mul _, Nat.zero_mul _, Nat.zero_mul _⟩
  · intro left right f g madeLeft madeRight known same
    obtain ⟨-, -, -, sortedLeft, -⟩ := ofFormula_eq_ok madeLeft
    obtain ⟨-, -, -, sortedRight, -⟩ := ofFormula_eq_ok madeRight
    have names : f.names = g.names := sortedLeft.eq_of_mem_iff sortedRight known
    refine ⟨_, costOfFormula_eq madeLeft, ?_, Made.cost_eq (.formula madeLeft), ?_⟩
    · rw [costOfFormula_eq madeRight, names, same]
    · rw [Made.cost_eq (.formula madeRight), names, same]

set_option maxRecDepth 4000 in
/-- `a → b` and `b ∨ a` have different results, of which three are true, and they cost the
same. The constant `1` costs nothing. -/
theorem cost_closed_form_three_of_four :
    ∃ f g h cost constant, ofFormula "a → b" = .ok f ∧ ofFormula "b ∨ a" = .ok g ∧
      f.results ≠ g.results ∧ costOfFormula "a → b" = .ok cost ∧ costOfFormula "b ∨ a" = .ok cost ∧
      cost.literals = 8 ∧ cost.conjunctions = 3 ∧ cost.disjunctions = 1 ∧ cost.total = 12 ∧
      ofFormula "1" = .ok h ∧ h.cost = .ok constant ∧ constant.total = 0 := by
  let f : BooleanFunction := ⟨["a", "b"], [true, true, false, true], .formula "a → b"
    [.var "a", .var "b", .operator (.binary .implies)]⟩
  let g : BooleanFunction := ⟨["a", "b"], [false, true, true, true], .formula "b ∨ a"
    [.var "b", .var "a", .operator (.binary .or)]⟩
  let h : BooleanFunction := ⟨[], [true], .formula "1" [.const true]⟩
  have madeLeft : ofFormula "a → b" = .ok f := rfl
  have madeRight : ofFormula "b ∨ a" = .ok g := rfl
  have madeConstant : ofFormula "1" = .ok h := rfl
  obtain ⟨closed, alike⟩ := cost_closed_form
  obtain ⟨cost, costs, -, counts⟩ := closed f (.formula madeLeft)
  obtain ⟨literals, conjunctions, disjunctions, total⟩ := counts (by decide)
  obtain ⟨same, left, right, this, -⟩ :=
    alike "a → b" "b ∨ a" f g madeLeft madeRight (fun _ => Iff.rfl) (by decide)
  obtain rfl := Except.ok.inj (this.symm.trans costs)
  obtain ⟨constant, free, nothing, -⟩ := closed h (.formula madeConstant)
  obtain ⟨-, -, -, zero⟩ := nothing rfl
  exact ⟨f, g, h, same, constant, madeLeft, madeRight, by decide, left, right, literals,
    conjunctions, disjunctions, total, madeConstant, free, zero⟩

end BooleanFunction

end Junctor
