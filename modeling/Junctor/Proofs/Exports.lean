import Junctor.Expression
import Junctor.Proofs.FunctionNumbers
import Junctor.Proofs.NormalForms

/-!
# Exports to an Algebra System

An algebra system makes expressions of its own kind. It may bring what it is handed into
another form, turn the parts of a conjunction around or leave some of them out, so that
nothing can be said of the expression that comes back but what it means. Of a system whose
operations mean what they are named for, this is enough. What is exported means the same
whichever way it goes: as the formula, as its form over the basis, or as the minterms of a
truth table, of which exactly one is true at an assignment if the function is true there, and
none otherwise.

## Main results

* `AlgebraSystem.TruthFunctional.value_build`: an expression means in the system what it means.
* `AlgebraSystem.table_build_plain`: the truth table of an expression that is left as it is.
* `BooleanFunction.eval_minterm_iff`: a minterm is true in its row only.
* `BooleanFunction.Made.eval_toExpression`: the minterms of a function mean what the function
  means.
* `BooleanFunction.Made.table_eq`: what means the same as a function has its results as truth
  table.
* `AlgebraSystem.exports_keep_table`: all exports of a function have its results as truth
  table.
-/

namespace Junctor

/-! ### Algebra systems -/

/-- An **algebra system**, with expressions of some kind: how they are put together, and what
truth values they have. -/
structure AlgebraSystem (E : Type) where
  symbol : String → E
  constant : Bool → E
  not : E → E
  all : List E → E
  any : List E → E
  xor : E → E → E
  implies : E → E → E
  iff : E → E → E
  /-- The truth value of an expression where the symbols have truth values. -/
  value : (String → Bool) → E → Bool

namespace Expression

variable {E : Type} (system : AlgebraSystem E)

mutual

/-- The expression made by an algebra system, operation by operation. -/
def build : Expression → E
  | symbol name => system.symbol name
  | constant value => system.constant value
  | not a => system.not a.build
  | all parts => system.all (buildParts parts)
  | any parts => system.any (buildParts parts)
  | xor a b => system.xor a.build b.build
  | implies a b => system.implies a.build b.build
  | iff a b => system.iff a.build b.build

/-- The parts of an expression made by an algebra system. -/
def buildParts : List Expression → List E
  | [] => []
  | a :: parts => a.build :: buildParts parts

end

end Expression

namespace AlgebraSystem

variable {E : Type}

/-- The operations of the system **mean what they are named for**. The conjunction of no
parts is true and the disjunction of none is false. -/
structure TruthFunctional (system : AlgebraSystem E) : Prop where
  symbol (v : String → Bool) (name : String) : system.value v (system.symbol name) = v name
  constant (v : String → Bool) (b : Bool) : system.value v (system.constant b) = b
  not (v : String → Bool) (a : E) : system.value v (system.not a) = !system.value v a
  all (v : String → Bool) (parts : List E) :
    system.value v (system.all parts) = parts.all (system.value v)
  any (v : String → Bool) (parts : List E) :
    system.value v (system.any parts) = parts.any (system.value v)
  xor (v : String → Bool) (a b : E) :
    system.value v (system.xor a b) = (system.value v a != system.value v b)
  implies (v : String → Bool) (a b : E) :
    system.value v (system.implies a b) = (!system.value v a || system.value v b)
  iff (v : String → Bool) (a b : E) :
    system.value v (system.iff a b) = (system.value v a == system.value v b)

/-- The column of the truth table that the system finds for an expression over some
variables. -/
def table (system : AlgebraSystem E) (names : List String) (e : E) : List Bool :=
  (List.range (2 ^ names.length)).map fun (index : Nat) =>
    let bindings := names.zip (rowValues index names.length)
    system.value (fun name => (bindings.lookup name).getD false) e

/-- The system that leaves expressions as they are, and so simplifies nothing. -/
def plain : AlgebraSystem Expression where
  symbol := .symbol
  constant := .constant
  not := .not
  all := .all
  any := .any
  xor := .xor
  implies := .implies
  iff := .iff
  value := Expression.eval

end AlgebraSystem

/-! ### Meaning -/

namespace Expression

/-- A conjunction is true if all parts are. -/
theorem evalAll_eq_all (v : String → Bool) (parts : List Expression) :
    evalAll v parts = parts.all (eval v) := by
  induction parts with
  | nil => rfl
  | cons a parts ih => rw [evalAll, ih, List.all_cons]

/-- A disjunction is true if any part is. -/
theorem evalAny_eq_any (v : String → Bool) (parts : List Expression) :
    evalAny v parts = parts.any (eval v) := by
  induction parts with
  | nil => rfl
  | cons a parts ih => rw [evalAny, ih, List.any_cons]

end Expression

namespace AlgebraSystem

variable {E : Type} {system : AlgebraSystem E}

/-- The system that leaves expressions as they are is truth-functional. -/
theorem truthFunctional_plain : plain.TruthFunctional where
  symbol _ _ := by simp only [plain, Expression.eval]
  constant _ _ := by simp only [plain, Expression.eval]
  not _ _ := by simp only [plain, Expression.eval]
  all v parts := by simp only [plain, Expression.eval, Expression.evalAll_eq_all]
  any v parts := by simp only [plain, Expression.eval, Expression.evalAny_eq_any]
  xor _ _ _ := by simp only [plain, Expression.eval]
  implies _ _ _ := by simp only [plain, Expression.eval]
  iff _ _ _ := by simp only [plain, Expression.eval]

namespace TruthFunctional

mutual

/-- What the system makes of an expression means what the expression means, **provided that
its operations are truth-functional**. -/
theorem value_build (lawful : system.TruthFunctional) (v : String → Bool) :
    ∀ e : Expression, system.value v (e.build system) = e.eval v
  | .symbol name => by rw [Expression.build, lawful.symbol, Expression.eval]
  | .constant value => by rw [Expression.build, lawful.constant, Expression.eval]
  | .not a => by rw [Expression.build, lawful.not, lawful.value_build v a, Expression.eval]
  | .all parts => by
      rw [Expression.build, lawful.all, Expression.eval, (lawful.values_buildParts v parts).1]
  | .any parts => by
      rw [Expression.build, lawful.any, Expression.eval, (lawful.values_buildParts v parts).2]
  | .xor a b => by
      rw [Expression.build, lawful.xor, lawful.value_build v a, lawful.value_build v b,
        Expression.eval]
  | .implies a b => by
      rw [Expression.build, lawful.implies, lawful.value_build v a, lawful.value_build v b,
        Expression.eval]
  | .iff a b => by
      rw [Expression.build, lawful.iff, lawful.value_build v a, lawful.value_build v b,
        Expression.eval]

/-- What the system makes of the parts of an expression means what they mean, all of them or
any. -/
theorem values_buildParts (lawful : system.TruthFunctional) (v : String → Bool) :
    ∀ parts : List Expression,
      (Expression.buildParts system parts).all (system.value v) = Expression.evalAll v parts ∧
      (Expression.buildParts system parts).any (system.value v) = Expression.evalAny v parts
  | [] => ⟨rfl, rfl⟩
  | a :: parts => by
      obtain ⟨all, any⟩ := lawful.values_buildParts v parts
      rw [Expression.buildParts, List.all_cons, List.any_cons, all, any, lawful.value_build v a]
      exact ⟨rfl, rfl⟩

end

end TruthFunctional

/-- In the system that leaves expressions as they are an expression **has its own truth
table**. -/
theorem table_build_plain (names : List String) (e : Expression) :
    plain.table names (e.build plain) = e.table names := by
  simp only [table, Expression.table, truthFunctional_plain.value_build]

end AlgebraSystem

/-! ### Minterms -/

namespace BooleanFunction

variable {f : BooleanFunction} {meaning : (String → Bool) → Bool}

/-- A minterm is true where the variables have the values of its row, and nowhere else. -/
theorem eval_minterm_iff {names : List String} {values : List Bool}
    (long : values.length = names.length) {v : String → Bool} :
    (minterm names values).eval v = true ↔ values = names.map v := by
  rw [minterm, Expression.eval, Expression.evalAll_eq_all, List.all_map, List.all_eq_true]
  have literal (x : String) (b : Bool) :
      (if b then Expression.symbol x else .not (.symbol x)).eval v = true ↔ b = v x := by
    cases b with
    | false =>
        rw [if_neg Bool.false_ne_true, Expression.eval, Expression.eval, Bool.not_eq_true', eq_comm]
    | true => rw [if_pos rfl, Expression.eval, eq_comm]
  induction names generalizing values with
  | nil => simp [List.length_eq_zero_iff.mp long]
  | cons x names ih =>
      obtain ⟨b, values, rfl⟩ := List.exists_cons_of_length_eq_add_one long
      rw [List.zip_cons_cons, List.forall_mem_cons, List.map_cons, List.cons.injEq]
      exact and_congr (literal x b) (ih (Nat.succ.inj long))

namespace Made

/-- The minterms of a function mean what the function means, since exactly those rows are
exported where it is true. -/
theorem eval_toExpression (made : f.Made) (means : f.Means meaning) (v : String → Bool) :
    f.toExpression.eval v = meaning v := by
  have here := made.getElem?_results means v
  have below (index : Nat) (there : f.results[index]? = some true) : index < 2 ^ f.names.length :=
    made.length_results ▸ (List.getElem?_eq_some_iff.mp there).1
  rw [toExpression, Expression.eval, Expression.evalAny_eq_any, List.any_map, Bool.eq_iff_iff,
    List.any_eq_true]
  constructor
  · rintro ⟨⟨result, index⟩, listed, holds⟩
    obtain ⟨there, rfl⟩ := List.mem_filter.mp listed
    rw [List.mem_zipIdx_iff_getElem?] at there
    -- The row of the minterm is the row of the valuation, and so it has the result.
    have values := (eval_minterm_iff (length_rowValues _ _)).mp holds
    have number := rowNumber_rowValues index f.names.length
    rw [values, Int.emod_eq_of_lt (Int.natCast_nonneg _) (by exact_mod_cast below index there)]
      at number
    rw [Int.natCast_inj.mp number, there] at here
    exact (Option.some.inj here).symm
  · intro holds
    refine ⟨(true, rowNumber (f.names.map v)), List.mem_filter.mpr ⟨?_, rfl⟩, ?_⟩
    · rw [List.mem_zipIdx_iff_getElem?, here, holds]
    · exact (eval_minterm_iff (length_rowValues _ _)).mpr (rowValues_rowNumber_map f.names v)

/-- What means the same as a function has **the results of the function** as its truth
table. -/
theorem table_eq {E : Type} {system : AlgebraSystem E} (made : f.Made) (means : f.Means meaning)
    {e : E} (values : ∀ v, system.value v e = meaning v) : system.table f.names e = f.results := by
  refine made.eq_results means (by simp [AlgebraSystem.table]) fun v => ?_
  have below : rowNumber (f.names.map v) < 2 ^ f.names.length :=
    made.length_results ▸ made.rowNumber_lt_length v
  rw [AlgebraSystem.table, List.getElem?_map, List.getElem?_range below, Option.map_some, values,
    rowValues_rowNumber_map]
  refine congrArg some (made.meaning_congr means fun x mem => ?_)
  rw [lookup_zip_map mem, Option.getD_some]

end Made

end BooleanFunction

/-! ### Exports -/

namespace AlgebraSystem

/-- Exports to an algebra system whose operations mean what they are named for **keep the
truth table**. For a text that is parsed, the formula, its form over the basis and the
function that is made of the text all have the results of the function as their truth table
over its variables, and so has a function that is made from numbers. -/
theorem exports_keep_table {E : Type} {system : AlgebraSystem E} (lawful : system.TruthFunctional) :
    (∀ (text : String) (tree : Formula), Formula.parse text = .ok tree →
      ∃ f, BooleanFunction.ofFormula text = .ok f ∧
        system.table f.names (tree.toExpression.build system) = f.results ∧
        system.table f.names (tree.toBasis.toExpression.build system) = f.results ∧
        system.table f.names (f.toExpression.build system) = f.results) ∧
    ∀ (count number : Value) (f : BooleanFunction),
      BooleanFunction.ofValues count number = .ok f →
      system.table f.names (f.toExpression.build system) = f.results := by
  refine ⟨fun text tree parsed => ?_, fun count number f given => ?_⟩
  · obtain ⟨f, accepted, origin, -⟩ := BooleanFunction.ofFormula_of_parse parsed
    have made : f.Made := .formula accepted
    have means : f.Means tree.eval := .formula origin parsed
    refine ⟨f, accepted, made.table_eq means fun v => ?_, made.table_eq means fun v => ?_,
      made.table_eq means fun v => ?_⟩
    · rw [lawful.value_build, tree.eval_toExpression]
    · rw [lawful.value_build, Formula.eval_toExpression, tree.eval_toBasis]
    · rw [lawful.value_build, made.eval_toExpression means]
  · have made := BooleanFunction.made_of_ofValues given
    obtain ⟨meaning, means⟩ := made.exists_means
    exact made.table_eq means fun v => by rw [lawful.value_build, made.eval_toExpression means]

/-- The implication `a → ¬b`, the disjunction that it is over the basis, and the three
minterms of its function all have the same truth table, and so have the two minterms of the
function 6. -/
theorem exports_keep_table_implication :
    (∃ f, BooleanFunction.ofFormula "a → ¬b" = .ok f ∧ f.names = ["a", "b"] ∧
      f.results = [true, true, true, false] ∧
      (Expression.implies (.symbol "a") (.not (.symbol "b"))).table f.names = f.results ∧
      (Expression.any [.not (.symbol "a"), .not (.symbol "b")]).table f.names = f.results ∧
      f.toExpression.table f.names = f.results) ∧
    ∃ f, BooleanFunction.ofValues (.int 2) (.int 6) = .ok f ∧
      f.results = [false, true, true, false] ∧ f.toExpression.table f.names = f.results := by
  obtain ⟨parsing, counting⟩ := exports_keep_table truthFunctional_plain
  simp only [table_build_plain] at parsing counting
  have parsed : Formula.parse "a → ¬b" = .ok (.binary .implies (.var "a") (.not (.var "b"))) :=
    eq_ok_of_toOption (by decide +kernel)
  obtain ⟨f, made, whole, basis, minterms⟩ := parsing _ _ parsed
  have names : f.names = ["a", "b"] := (BooleanFunction.names_of_parse parsed made).trans
    (by decide)
  have results : f.results = [true, true, true, false] := by
    rw [← whole, names]
    decide
  exact ⟨⟨f, made, names, results, whole, basis, minterms⟩,
    ⟨_, rfl, by decide, counting (.int 2) (.int 6) _ rfl⟩⟩

end AlgebraSystem

end Junctor
