import Junctor.Proofs.Reading
import Junctor.Proofs.TruthTables

/-!
# What the Perfect Normal Forms Mean

A perfect normal form is a text, and what it means is found by reading it again. It is put
together from literals with the connective of one kind into terms, and from terms with the
connective of the other kind. Both connectives are of one sort, though: conjunction is true
only where both operands are, and disjunction is false only where both operands are. One
lemma about chains of such a connective is therefore used twice, for a term and, with the
opposite truth value, for the whole form.

`Expresses` says of a text for which formula it is written and where this formula has a truth
value. Everything about tokens stays behind `Formula.Written`.

## Main results

* `Expresses.intercalate`: a chain has the truth value where all its parts have it.
* `Form.expresses_term`: a term has the selected value at the assignment of its row.
* `Form.expresses_perfect`: a normal form has it at the assignments of the selected rows.
* `Form.perfect_reevaluates`: the value of a normal form, of any rows and of a function.
-/

namespace Junctor

/-- The value of a text: its tokens are put in reverse Polish order and evaluated. -/
def evaluateText (valuation : Valuation) (text : String) : Except FormulaError Bool := do
  evaluate valuation (← toReversePolish (← tokens text))

/-- The value of a text that is written for a formula is the truth value of the formula,
where its variables have values. -/
theorem Formula.Written.evaluateText_eq {level : Nat} {s : String} {f : Formula}
    (written : Written level s f) {valuation : Valuation} {v : String → Bool}
    (bound : ∀ x ∈ f.names, valuation x = some (v x)) :
    evaluateText valuation s = .ok (f.eval v) := by
  obtain ⟨ts, read, order⟩ := Formula.parse_eq_ok_iff.mp written.parse_eq_ok
  have evaluated : evaluate valuation f.postorder = .ok (f.eval v) :=
    evaluate_postorder fun x mem => bound x (Formula.mem_names_iff.mpr mem)
  exact bind_eq_ok_iff.mpr ⟨ts, read, bind_eq_ok_iff.mpr ⟨_, order, evaluated⟩⟩

/-! ### Connectives of which both operands must agree -/

/-- The connective that has a truth value only where both operands have it. -/
def Connective.meet : Bool → Connective
  | true => .and
  | false => .or

/-- A meet has the truth value exactly where both operands have it. -/
theorem Connective.apply_meet_iff {b p q : Bool} :
    (meet b).apply p q = b ↔ p = b ∧ q = b := by
  cases b <;> cases p <;> cases q <;> decide

/-- A meet joins formulas at a level below negation. -/
theorem Connective.exists_joins_meet (b : Bool) :
    ∃ level, Joins level (meet b) ∧ 1 ≤ level ∧ level ≤ 3 := by
  cases b with
  | false => exact ⟨2, .or, by omega, by omega⟩
  | true => exact ⟨3, .and, by omega, by omega⟩

/-! ### Texts and conditions -/

/-- The text **expresses the condition**: it is written at the level for a formula over the
names that has the truth value exactly where the condition holds. -/
def Expresses (names : List String) (level : Nat) (s : String) (b : Bool)
    (condition : (String → Bool) → Prop) : Prop :=
  ∃ f, Formula.Written level s f ∧ (∀ x ∈ f.names, x ∈ names) ∧ ∀ v, f.eval v = b ↔ condition v

namespace Expresses

variable {names : List String} {level : Nat} {s t : String} {b : Bool}
variable {P Q : (String → Bool) → Prop}

/-- A text expresses whatever holds in the same cases. -/
theorem congr (h : Expresses names level s b P) (same : ∀ v, P v ↔ Q v) :
    Expresses names level s b Q := by
  obtain ⟨f, written, named, values⟩ := h
  exact ⟨f, written, named, fun v => (values v).trans (same v)⟩

/-- With the other truth value a text expresses the opposite. -/
theorem opposite (h : Expresses names level s b P) :
    Expresses names level s (!b) fun v => ¬ P v := by
  obtain ⟨f, written, named, values⟩ := h
  exact ⟨f, written, named, fun v => Bool.eq_not.trans (not_congr (values v))⟩

/-- A text of a level is one of every level below. -/
theorem lower_le {low : Nat} (h : Expresses names level s b P) (least : 1 ≤ low)
    (le : low ≤ level) : Expresses names low s b P := by
  obtain ⟨f, written, rest⟩ := h
  exact ⟨f, written.lower_le least le, rest⟩

/-- Parentheses change nothing. -/
theorem enclosed (h : Expresses names 1 s b P) : Expresses names 5 ("(" ++ s ++ ")") b P := by
  obtain ⟨f, written, rest⟩ := h
  exact ⟨f, written.enclosed, rest⟩

/-- A constant has a truth value everywhere or nowhere. -/
theorem constant (value : Bool) :
    Expresses names 5 (Token.constantText value) b fun _ => value = b :=
  ⟨.const value, .constant value, fun _ mem => absurd mem List.not_mem_nil, fun _ => Iff.rfl⟩

/-- Two texts with a meet in between have the truth value where both have it. -/
theorem joined (joins : Joins level (.meet b)) (left : Expresses names level s b P)
    (right : Expresses names (level + 1) t b Q) :
    Expresses names level (s ++ (" " ++ (Connective.meet b).symbol ++ " ") ++ t) b
      fun v => P v ∧ Q v := by
  obtain ⟨f, writtenLeft, namedLeft, valuesLeft⟩ := left
  obtain ⟨g, writtenRight, namedRight, valuesRight⟩ := right
  refine ⟨_, .joined joins writtenLeft writtenRight, fun x mem => ?_, fun v => ?_⟩
  · rw [Formula.names, mem_unionNames] at mem
    exact mem.elim (namedLeft x) (namedRight x)
  · rw [Formula.eval, Connective.apply_meet_iff, valuesLeft, valuesRight]

variable {α : Type} {text : α → String} {condition : α → (String → Bool) → Prop}

/-- A text to which others are joined one after the other has the truth value where all of them
have it. -/
theorem joined_intercalate (joins : Joins level (.meet b)) {items : List α}
    (each : ∀ a ∈ items, Expresses names (level + 1) (text a) b (condition a))
    (first : Expresses names level s b P) :
    Expresses names level
      ((" " ++ (Connective.meet b).symbol ++ " ").intercalate (s :: items.map text)) b
      fun v => P v ∧ ∀ a ∈ items, condition a v := by
  -- The chain groups to the left, so that what has been joined so far is the first text.
  induction items generalizing s P with
  | nil =>
      rw [List.map_nil, String.intercalate_singleton]
      exact first.congr fun v => by simp
  | cons a items ih =>
      have next := first.joined joins (each a List.mem_cons_self)
      have whole := ih (fun a mem => each a (List.mem_cons_of_mem _ mem)) next
      exact whole.congr fun v => by simp [and_assoc]

/-- A chain of texts has the truth value that its connective keeps exactly where all of them
have it. -/
theorem intercalate {items : List α} (nonempty : items ≠ [])
    (each : ∀ a ∈ items, Expresses names 4 (text a) b (condition a)) :
    Expresses names 1 ((" " ++ (Connective.meet b).symbol ++ " ").intercalate (items.map text)) b
      fun v => ∀ a ∈ items, condition a v := by
  obtain ⟨level, joins, least, greatest⟩ := Connective.exists_joins_meet b
  cases items with
  | nil => exact absurd rfl nonempty
  | cons a items =>
      have first := (each a List.mem_cons_self).lower_le least (by omega)
      have rest : ∀ a ∈ items, Expresses names (level + 1) (text a) b (condition a) :=
        fun a mem => (each a (List.mem_cons_of_mem _ mem)).lower_le (by omega) (by omega)
      have whole := (first.joined_intercalate joins rest).lower_le (Nat.le_refl 1) least
      exact whole.congr fun v => by simp

/-- What a text expresses is what evaluating it finds, where the names have values. -/
theorem exists_evaluateText (h : Expresses names level s b P) {valuation : Valuation}
    {v : String → Bool} (bound : ∀ x ∈ names, valuation x = some (v x)) :
    ∃ value, evaluateText valuation s = .ok value ∧ (value = b ↔ P v) := by
  obtain ⟨f, written, named, values⟩ := h
  exact ⟨f.eval v, written.evaluateText_eq fun x mem => bound x (named x mem), values v⟩

end Expresses

/-! ### Rows over names -/

/-- The row is **over the names**: it has these in their order, and a truth value for each of
them. -/
structure Row.IsOver (row : Row) (names : List String) : Prop where
  /-- It has the names. -/
  names_eq : row.names = names
  /-- It has as many values. -/
  length_values : row.values.length = names.length
  /-- Its values are truth values. -/
  truth : ∀ value ∈ row.values, ∃ b, value = .truth b

/-- A row with a number is over the names of its truth table. -/
theorem Row.isOver_ofIndex (names : List String) (index : Nat) (result : Bool) :
    (ofIndex names index result).IsOver names := by
  refine ⟨rfl, by simp [ofIndex], fun value mem => ?_⟩
  obtain ⟨b, -, rfl⟩ := List.mem_map.mp mem
  exact ⟨b, rfl⟩

/-- The assignment in a row. -/
def Row.assignment (row : Row) : Assignment :=
  row.bindings.map fun (name, cell) => (name, cell.toValue)

/-- A row has the assignment of a valuation if it has the values of this beside its names. -/
theorem Row.IsOver.assignment_eq_iff {row : Row} {names : List String} (aligned : row.IsOver names)
    (distinct : names.Nodup) {v : String → Bool} :
    row.assignment = .ofValuation names v ↔
      ∀ pair ∈ names.zip row.values, pair.2 = .truth (v pair.1) := by
  have firsts : (names.zip row.values).map Prod.fst = names :=
    List.map_fst_zip (Nat.le_of_eq aligned.length_values.symm)
  have bindings : row.bindings = names.zip row.values := by
    obtain rfl := aligned.names_eq
    exact Row.bindings_eq_zip distinct aligned.length_values
  have pairs : Assignment.ofValuation names v =
      (names.zip row.values).map fun pair => (pair.1, .truth (v pair.1)) := by
    conv => lhs; rw [Assignment.ofValuation_eq, ← firsts, List.map_map]
    rfl
  have cell {c : Cell} {b : Bool} : c.toValue = .truth b ↔ c = .truth b := by
    cases c <;> simp [Cell.toValue]
  rw [assignment, bindings, pairs, List.map_inj_left]
  exact forall₂_congr fun pair _ => by rw [Prod.mk.injEq, cell, and_iff_right rfl]

/-! ### Normal forms -/

namespace Form

variable {names : List String}

/-- The connective inside a term is the meet of the selected value. -/
theorem inner_eq_meet (form : Form) : form.inner = .meet form.selects := by
  cases form <;> rfl

/-- The connective between the terms is the meet of the other value. -/
theorem outer_eq_meet (form : Form) : form.outer = .meet !form.selects := by
  cases form <;> rfl

/-- A form selects the rows whose result is its truth value. -/
theorem selectsRow_iff {form : Form} {row : Row} :
    form.selectsRow row = true ↔ row.result.toValue.isTrue = form.selects := by
  have truth : (row.result.toInt != 0) = row.result.toValue.isTrue := by
    cases row.result with
    | truth b => cases b <;> rfl
    | int i => rfl
  rw [selectsRow, truth, beq_iff_eq]

/-- A literal has the selected value where its variable has the value of the row. -/
theorem expresses_literal (form : Form) {x : String} (name : IsName x) (mem : x ∈ names)
    (b : Bool) : Expresses names 4 (form.literal x (.truth b)) form.selects
      fun v => Cell.truth b = .truth (v x) := by
  have written : Expresses names 4 x true fun v => v x = true :=
    ⟨.var x, (Formula.Written.name name).lower_le (by omega) (by omega),
      fun y known => List.mem_singleton.mp known ▸ mem, fun v => Iff.rfl⟩
  have negated : Expresses names 4 ("¬" ++ x) true fun v => v x = false :=
    ⟨.not (.var x), (Formula.Written.name name).negated,
      fun y known => List.mem_singleton.mp known ▸ mem, fun v => by simp [Formula.eval]⟩
  cases form <;> cases b
  · exact negated.congr fun v => by simp
  · exact written.congr fun v => by simp
  · exact written.opposite.congr fun v => by simp
  · exact negated.opposite.congr fun v => by simp

/-- A term has the selected value at the assignment of its row and **at no other**. -/
theorem expresses_term (form : Form) {row : Row} (aligned : row.IsOver names) (named : names ≠ [])
    (valid : ∀ x ∈ names, IsName x) (distinct : names.Nodup) :
    Expresses names 5 (form.term row) form.selects
      fun v => row.assignment = .ofValuation names v := by
  have pairs : names.zip row.values ≠ [] := by
    rw [← List.length_pos_iff, List.length_zip, aligned.length_values, Nat.min_self]
    exact List.length_pos_iff.mpr named
  have each : ∀ pair ∈ names.zip row.values, Expresses names 4 (form.literal pair.1 pair.2)
      form.selects fun v => pair.2 = .truth (v pair.1) := by
    rintro ⟨x, value⟩ mem
    obtain ⟨named, valued⟩ := List.of_mem_zip mem
    obtain ⟨b, rfl⟩ := aligned.truth value valued
    exact form.expresses_literal (valid x named) named b
  rw [term, inner_eq_meet, aligned.names_eq]
  exact (Expresses.intercalate pairs each).enclosed.congr fun v =>
    (aligned.assignment_eq_iff distinct).symm

/-- A chain of terms has the selected value at the assignments of its rows. -/
theorem expresses_terms (form : Form) {rows : List Row} (nonempty : rows ≠ []) (named : names ≠ [])
    (valid : ∀ x ∈ names, IsName x) (distinct : names.Nodup)
    (aligned : ∀ row ∈ rows, row.IsOver names) :
    Expresses names 1 ((" " ++ form.outer.symbol ++ " ").intercalate (rows.map form.term))
      form.selects fun v => ∃ row ∈ rows, row.assignment = .ofValuation names v := by
  -- The chain has the other value exactly where all of its terms have it.
  have each : ∀ row ∈ rows, Expresses names 4 (form.term row) (!form.selects)
      fun v => ¬ row.assignment = .ofValuation names v := by
    intro row mem
    have term := form.expresses_term (aligned row mem) named valid distinct
    exact (term.lower_le (by omega) (by omega)).opposite
  have whole := (Expresses.intercalate nonempty each).opposite
  rw [Bool.not_not] at whole
  rw [outer_eq_meet]
  exact whole.congr fun v => by simp only [not_forall, not_not, exists_prop]

/-- A perfect normal form has the selected value exactly at the assignments of the selected
rows. -/
theorem expresses_perfect (form : Form) {rows : List Row} (valid : ∀ x ∈ names, IsName x)
    (distinct : names.Nodup) (aligned : ∀ row ∈ rows, row.IsOver names) :
    Expresses names 1 (form.perfect names rows) form.selects fun v =>
      ∃ row ∈ rows, row.result.toValue.isTrue = form.selects ∧
        row.assignment = .ofValuation names v := by
  have selected {P : Row → Prop} : (∃ row ∈ rows.filter form.selectsRow, P row) ↔
      ∃ row ∈ rows, row.result.toValue.isTrue = form.selects ∧ P row := by
    simp only [List.mem_filter, selectsRow_iff, and_assoc]
  have kept : ∀ row ∈ rows.filter form.selectsRow, row.IsOver names :=
    fun row mem => aligned row (List.mem_filter.mp mem).1
  simp only [← selected]
  rw [perfect]
  generalize rows.filter form.selectsRow = chosen at kept ⊢
  cases chosen with
  | nil =>
      refine ((Expresses.constant _).lower_le (Nat.le_refl 1) (by omega)).congr fun v => ?_
      exact iff_of_false (Bool.not_ne_self _) fun ⟨row, mem, _⟩ => List.not_mem_nil mem
  | cons row rest =>
      by_cases unnamed : names = []
      · subst unnamed
        refine ((Expresses.constant _).lower_le (Nat.le_refl 1) (by omega)).congr fun v => ?_
        have here := (kept row List.mem_cons_self).assignment_eq_iff (v := v) distinct
        exact iff_of_true rfl ⟨row, List.mem_cons_self, here.mpr fun _ mem => nomatch mem⟩
      · simp only [List.isEmpty_eq_false_iff.mpr unnamed, Bool.false_eq_true, if_false]
        exact form.expresses_terms (List.cons_ne_nil row rest) unnamed valid distinct kept

end Form

/-! ### Normal forms of functions -/

/-- Truth values that are equal to some truth value in the same case are equal. -/
theorem eq_of_eq_iff {p q b : Bool} (same : p = b ↔ q = b) : p = q := by
  cases p <;> cases q <;> cases b <;> simp_all

namespace BooleanFunction

variable {f : BooleanFunction} {meaning : (String → Bool) → Bool}

/-- The rows of a function are over its variables. -/
theorem isOver_of_mem_rows {row : Row} (mem : row ∈ f.rows) : row.IsOver f.names := by
  obtain ⟨⟨result, index⟩, -, rfl⟩ := List.mem_map.mp mem
  exact Row.isOver_ofIndex f.names index result

namespace Made

/-- What a function means depends on the values of its variables only. -/
theorem meaning_congr (made : f.Made) (means : f.Means meaning) {v w : String → Bool}
    (same : ∀ x ∈ f.names, v x = w x) : meaning v = meaning w := by
  have left := made.getElem?_results means v
  rw [List.map_congr_left same, made.getElem?_results means w] at left
  exact (Option.some.inj left).symm

/-- The row of a valuation has its assignment. -/
theorem assignment_ofIndex (made : f.Made) (v : String → Bool) (result : Bool) :
    (Row.ofIndex f.names (rowNumber (f.names.map v)) result).assignment =
      .ofValuation f.names v := by
  rw [(Row.isOver_ofIndex _ _ result).assignment_eq_iff made.nodup, Row.ofIndex,
    rowValues_rowNumber_map, List.map_map, ← List.map_prod_left_eq_zip, List.forall_mem_map]
  exact fun x _ => rfl

/-- A row that has the assignment of a valuation has the result that the function means
there. -/
theorem result_of_assignment_eq (made : f.Made) (means : f.Means meaning) {row : Row}
    (mem : row ∈ f.rows) {v : String → Bool} (assigned : row.assignment = .ofValuation f.names v) :
    row.result = .truth (meaning v) := by
  obtain ⟨w, rfl⟩ := (made.mem_rows_iff means).mp mem
  rw [made.assignment_ofIndex, Assignment.ofValuation_eq, Assignment.ofValuation_eq,
    List.map_inj_left] at assigned
  have same : meaning w = meaning v := made.meaning_congr means fun x mem => by
    have pair := assigned x mem
    rwa [Prod.mk.injEq, and_iff_right rfl, Value.truth.injEq] at pair
  rw [← same]
  rfl

/-- The normal forms of a function that was made are written for formulas that mean the
same. -/
theorem exists_written_normalForm (made : f.Made) (means : f.Means meaning) (form : Form) :
    ∃ tree, Formula.Written 1 (f.normalForm form) tree ∧ (∀ x ∈ tree.names, x ∈ f.names) ∧
      ∀ v, tree.eval v = meaning v := by
  obtain ⟨tree, written, named, values⟩ := form.expresses_perfect (fun x => made.isName) made.nodup
    fun row (mem : row ∈ f.rows) => isOver_of_mem_rows mem
  refine ⟨tree, written, named, fun v => eq_of_eq_iff ((values v).trans ⟨?_, ?_⟩)⟩
  · rintro ⟨row, listed, result, assigned⟩
    rwa [made.result_of_assignment_eq means listed assigned] at result
  · intro result
    exact ⟨_, (made.mem_rows_iff means).mpr ⟨v, rfl⟩, result, made.assignment_ofIndex v _⟩

/-- The normal forms of a function that was made have its values in every row. -/
theorem evaluateText_normalForm (made : f.Made) (form : Form) {row : Row} (mem : row ∈ f.rows) :
    ∃ b, row.result = .truth b ∧
      evaluateText row.assignment.valuation (f.normalForm form) = .ok b := by
  obtain ⟨meaning, means⟩ := made.exists_means
  obtain ⟨v, rfl⟩ := (made.mem_rows_iff means).mp mem
  obtain ⟨tree, written, named, values⟩ := made.exists_written_normalForm means form
  refine ⟨meaning v, rfl, ?_⟩
  rw [made.assignment_ofIndex, ← values v]
  exact written.evaluateText_eq fun x mem => Assignment.valuation_ofValuation (named x mem) v

end Made

end BooleanFunction

/-! ### The main result -/

/-- A perfect normal form **means what the rows say**. Over names that differ, the text is
parsed, and where the names have truth values it is evaluated to the selected value exactly
if a selected row has this assignment. Both normal forms of a function that was made have its
result in every row. -/
theorem Form.perfect_reevaluates :
    (∀ (form : Form) (names : List String) (rows : List Row), (∀ x ∈ names, IsName x) →
      names.Nodup → (∀ row ∈ rows, row.IsOver names) →
      (∃ tree, Formula.parse (form.perfect names rows) = .ok tree) ∧
      ∀ (valuation : Valuation) (v : String → Bool), (∀ x ∈ names, valuation x = some (v x)) →
        ∃ value, evaluateText valuation (form.perfect names rows) = .ok value ∧
          (value = form.selects ↔ ∃ row ∈ rows, row.result.toValue.isTrue = form.selects ∧
            row.assignment = .ofValuation names v)) ∧
    ∀ (f : BooleanFunction), f.Made → ∀ (form : Form), ∀ row ∈ f.rows,
      ∃ b, row.result = .truth b ∧
        evaluateText row.assignment.valuation (f.normalForm form) = .ok b := by
  refine ⟨fun form names rows valid distinct aligned => ?_, fun f made form row mem =>
    made.evaluateText_normalForm form mem⟩
  have expressed := form.expresses_perfect valid distinct aligned
  obtain ⟨tree, written, -⟩ := id expressed
  exact ⟨⟨tree, written.parse_eq_ok⟩, fun valuation v bound => expressed.exists_evaluateText bound⟩

/-- The conjunctive form of rows out of order, of which one comes up twice and one is not
selected, is false where `b` is false and `a` is true; and the disjunctive form of the
function 6 of two variables has the results of its rows. -/
theorem Form.perfect_reevaluates_exclusive_or :
    Form.conjunctive.perfect ["b", "a"] [.ofIndex ["b", "a"] 3 true, .ofIndex ["b", "a"] 1 false,
        .ofIndex ["b", "a"] 1 false] = "(b ∨ ¬a) ∧ (b ∨ ¬a)" ∧
      evaluateText (Assignment.valuation [("a", .truth true), ("b", .truth false)])
        "(b ∨ ¬a) ∧ (b ∨ ¬a)" = .ok false ∧
      ∃ f, BooleanFunction.ofNumber (.int 2) (.int 6) = .ok f ∧
        f.normalForm .disjunctive = "(¬x1 ∧ x2) ∨ (x1 ∧ ¬x2)" ∧
        ∀ row ∈ f.rows, ∃ b, row.result = .truth b ∧
          evaluateText row.assignment.valuation "(¬x1 ∧ x2) ∨ (x1 ∧ ¬x2)" = .ok b := by
  have text : Form.conjunctive.perfect ["b", "a"] [.ofIndex ["b", "a"] 3 true,
      .ofIndex ["b", "a"] 1 false, .ofIndex ["b", "a"] 1 false] = "(b ∨ ¬a) ∧ (b ∨ ¬a)" := by
    decide +kernel
  have valid : ∀ x ∈ ["b", "a"], IsName x :=
    List.forall_mem_cons.mpr ⟨⟨by decide +kernel, by decide +kernel, by decide +kernel⟩,
      List.forall_mem_singleton.mpr ⟨by decide +kernel, by decide +kernel, by decide +kernel⟩⟩
  obtain ⟨ofRows, ofFunctions⟩ := perfect_reevaluates
  obtain ⟨-, values⟩ := ofRows .conjunctive ["b", "a"] [.ofIndex ["b", "a"] 3 true,
    .ofIndex ["b", "a"] 1 false, .ofIndex ["b", "a"] 1 false] valid (by decide)
    (by simp [Row.isOver_ofIndex])
  obtain ⟨value, found, selected⟩ := values
    (Assignment.valuation [("a", .truth true), ("b", .truth false)]) (· == "a") (by decide)
  obtain rfl : value = false := selected.mpr ⟨.ofIndex ["b", "a"] 1 false, by simp, rfl, rfl⟩
  have made : BooleanFunction.ofNumber (.int 2) (.int 6) =
      .ok ⟨["x1", "x2"], [false, true, true, false], .number (.int 6)⟩ := rfl
  have form : BooleanFunction.normalForm ⟨["x1", "x2"], [false, true, true, false],
      .number (.int 6)⟩ .disjunctive = "(¬x1 ∧ x2) ∨ (x1 ∧ ¬x2)" := by decide +kernel
  exact ⟨text, text ▸ found, _, made, form, fun row mem =>
    form ▸ ofFunctions _ (.number made) .disjunctive row mem⟩

end Junctor
