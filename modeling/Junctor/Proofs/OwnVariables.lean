import Junctor.Proofs.Spelling
import Junctor.Proofs.TruthTables

/-!
# Formulas Depend on Their Own Variables

A formula is evaluated by running its tokens in reverse Polish order, which is not the order
of the text. Yet the operands keep their order, so that the first variable without a value
that the run meets is the leftmost one of the text. Before that the run does not fail: on the
tokens of a formula it follows the machine that builds the formula, which never lacks
operands.

If all variables have values, only their truth counts, and the value is the result in the row
of their truth values. Other names do not matter.

## Main results

* `FirstUnbound`: the first variable without a value; `firstUnbound_toReversePolish_iff`: it
  is the same before and after reordering.
* `evaluate_of_firstUnbound`: where evaluation fails.
* `Lexer.Layout.split`: a text is split at one of its tokens.
* `BooleanFunction.evaluate_by_own_variables`: the value of a function made from a formula at
  any assignment.
-/

namespace Junctor

/-! ### The first variable without a value -/

/-- The variable is **the first** among the tokens that has no value, and so the one that an
evaluation from the left comes upon. -/
def FirstUnbound (valuation : Valuation) (ts : List Token) (x : String) : Prop :=
  (ts.filterMap Token.name?).find? (fun y => (valuation y).isNone) = some x

variable {valuation : Valuation} {ts polish : List Token} {x : String}

/-- A token that names a variable is this variable. -/
theorem Token.name?_eq_some_iff {t : Token} : t.name? = some x ↔ t = .var x := by
  cases t <;> simp [name?]

/-- A variable is among the names of the tokens if it is among the tokens. -/
theorem mem_filterMap_name? : x ∈ ts.filterMap Token.name? ↔ .var x ∈ ts := by
  simp only [List.mem_filterMap, Token.name?_eq_some_iff, exists_eq_right]

/-- The first variable without a value stands behind variables with values. -/
theorem FirstUnbound.exists_append (first : FirstUnbound valuation ts x) :
    ∃ before after, ts = before ++ .var x :: after ∧ valuation x = none ∧
      ∀ y, .var y ∈ before → (valuation y).isSome = true := by
  obtain ⟨unbound, earlier, later, split, bound⟩ := List.find?_eq_some_iff_append.mp first
  obtain ⟨before, rest, rfl, rfl, behind⟩ := List.filterMap_eq_append_iff.mp split
  obtain ⟨between, t, after, rfl, unnamed, name, -⟩ := List.filterMap_eq_cons_iff.mp behind
  obtain rfl := Token.name?_eq_some_iff.mp name
  refine ⟨before ++ between, after, (List.append_assoc ..).symm,
    Option.isNone_iff_eq_none.mp unbound, fun y mem => ?_⟩
  rcases List.mem_append.mp mem with mem | mem
  · simpa using bound y (mem_filterMap_name?.mpr mem)
  · cases unnamed _ mem

/-- There is a first variable without a value exactly if there is any. -/
theorem exists_firstUnbound_iff :
    (∃ x, FirstUnbound valuation ts x) ↔ ∃ x, .var x ∈ ts ∧ valuation x = none := by
  simp only [FirstUnbound, ← Option.isSome_iff_exists, List.find?_isSome, mem_filterMap_name?,
    Option.isNone_iff_eq_none]

/-- Reordering keeps the first variable without a value, since it keeps the order of the
operands. -/
theorem firstUnbound_toReversePolish_iff (order : toReversePolish ts = .ok polish) :
    FirstUnbound valuation polish x ↔ FirstUnbound valuation ts x := by
  have operands (us : List Token) :
      (us.filter Token.isOperand).filterMap Token.name? = us.filterMap Token.name? := by
    rw [List.filterMap_filter]
    refine List.filterMap_congr fun t _ => ?_
    cases t <;> rfl
  have names : polish.filterMap Token.name? = ts.filterMap Token.name? := by
    rw [← operands, toReversePolish_operands order, operands]
  rw [FirstUnbound, FirstUnbound, names]

/-- Evaluation of a postorder **fails at the first variable** without a value. -/
theorem evaluate_of_firstUnbound {f : Formula} (first : FirstUnbound valuation f.postorder x) :
    evaluate valuation f.postorder = .error (.unknownVariable x) := by
  obtain ⟨before, after, split, unbound, bound⟩ := first.exists_append
  have whole : Formula.build [] (before ++ .var x :: after) = .ok [f] :=
    split ▸ Formula.build_postorder [] f
  rw [Formula.build_append] at whole
  obtain ⟨stack, built, -⟩ := bind_eq_ok_iff.mp whole
  have taken : Evaluation.run valuation [] before = _ :=
    Evaluation.run_eval [] fun y mem => eq_some_getD (bound y mem)
  rw [built] at taken
  have refused (values : List Bool) :
      Evaluation.run valuation values (.var x :: after) = .error (.unknownVariable x) := by
    rw [Evaluation.run, List.foldlM_cons, Evaluation.step, unbound]
    rfl
  have ran : Evaluation.run valuation [] (before ++ .var x :: after) =
      .error (.unknownVariable x) :=
    calc Evaluation.run valuation [] (before ++ .var x :: after)
        = Evaluation.run valuation [] before >>=
            (Evaluation.run valuation · (.var x :: after)) := by
          simp only [Evaluation.run, List.foldlM_append]
      _ = .error (.unknownVariable x) := by
          rw [taken]
          exact refused _
  rw [evaluate, split, ran]
  rfl

/-! ### Its place in the text -/

namespace Lexer

/-- What may stand before a text may stand before a part of it. -/
theorem Apart.left {s : String} {left right : List Char} (apart : Apart s (left ++ right)) :
    Apart s left := by
  cases left with
  | nil => exact ⟨fun _ => Text.separates_nil, fun _ => by simp⟩
  | cons c left => exact ⟨apart.word, apart.digraph⟩

/-- A layout **is split** at each of its tokens. -/
theorem Layout.split {before after : List Token} {t : Token} {cs : List Char}
    (layout : Layout (before ++ t :: after) cs) :
    ∃ left s right, cs = left ++ s.toList ++ right ∧ Spells s t ∧ Layout before left ∧
      Layout after right := by
  -- The induction needs the tokens as a variable.
  generalize whole : before ++ t :: after = ts at layout
  induction layout generalizing before with
  | nil => simp at whole
  | @blank c _ _ blank _ ih =>
      obtain ⟨left, s, right, rfl, spells, layoutLeft, layoutRight⟩ := ih whole
      exact ⟨c :: left, s, right, rfl, spells, .blank blank layoutLeft, layoutRight⟩
  | @token s u us cs spells apart rest ih =>
      cases before with
      | nil =>
          obtain ⟨rfl, rfl⟩ := List.cons.inj whole
          exact ⟨[], s, cs, rfl, spells, .nil, rest⟩
      | cons v before =>
          obtain ⟨rfl, behind⟩ := List.cons.inj whole
          obtain ⟨left, s', right, rfl, spells', layoutLeft, layoutRight⟩ := ih behind
          rw [List.append_assoc] at apart
          refine ⟨s.toList ++ left, s', right, ?_, spells', .token spells apart.left layoutLeft,
            layoutRight⟩
          simp only [List.append_assoc]

/-- A variable spells itself. -/
theorem Spells.eq_of_var {s x : String} (spells : Spells s (.var x)) : s = x := by
  generalize same : Token.var x = t at spells
  cases spells with
  | word => exact (of_ofText_eq_var same.symm).1.symm
  | sign => exact (of_ofText_eq_var same.symm).1.symm
  | _ => cases same

end Lexer

namespace Assignment

/-- A variable has no value exactly if it is not bound. -/
theorem valuation_eq_none_iff {assignment : Assignment} {x : String} :
    assignment.valuation x = none ↔ x ∉ assignment.map Prod.fst := by
  rw [← isSome_valuation_iff, Bool.not_eq_true, Option.isSome_eq_false_iff,
    Option.isNone_iff_eq_none]

/-- Is a variable bound to a value that counts as true? -/
def holds (assignment : Assignment) (x : String) : Bool := (assignment.lookup x).any Value.isTrue

/-- A variable that is bound has the value that it counts as. -/
theorem valuation_eq_some {assignment : Assignment} {x : String}
    (bound : x ∈ assignment.map Prod.fst) : assignment.valuation x = some (assignment.holds x) := by
  obtain ⟨b, found⟩ := Option.isSome_iff_exists.mp (isSome_valuation_iff.mpr bound)
  obtain ⟨value, looked, rfl⟩ := Option.map_eq_some_iff.mp found
  rw [found, holds, looked]
  rfl

end Assignment

/-- At a place in the text stands a variable that is not bound, while **all variables to its
left are**. -/
structure LeftmostUnbound (assignment : Assignment) (text x : String) : Prop where
  /-- It is not bound. -/
  unbound : x ∉ assignment.map Prod.fst
  /-- What stands to its left and to its right. -/
  place : ∃ before after left right, text.toList = left ++ x.toList ++ right ∧
    tokens text = .ok (before ++ .var x :: after) ∧ Lexer.Layout before left ∧
    Lexer.Layout after right ∧ ∀ y, .var y ∈ before → y ∈ assignment.map Prod.fst

/-- The first of the tokens without a value is the leftmost in the text. -/
theorem FirstUnbound.leftmost {assignment : Assignment} {text : String}
    (first : FirstUnbound assignment.valuation ts x) (read : tokens text = .ok ts) :
    LeftmostUnbound assignment text x := by
  obtain ⟨before, after, rfl, unbound, bound⟩ := first.exists_append
  obtain ⟨left, s, right, split, spells, layoutLeft, layoutRight⟩ :=
    (tokens_eq_ok_iff.mp read).2.2.split
  obtain rfl := spells.eq_of_var
  exact ⟨Assignment.valuation_eq_none_iff.mp unbound, before, after, left, right, split, read,
    layoutLeft, layoutRight, fun y mem => Assignment.isSome_valuation_iff.mp (bound y mem)⟩

/-! ### The value at any assignment -/

/-- Evaluation depends on the values of the variables among the tokens only. -/
theorem evaluate_congr {other : Valuation} (agree : ∀ x, .var x ∈ ts → valuation x = other x) :
    evaluate valuation ts = evaluate other ts := by
  have run (stack : List Bool) :
      Evaluation.run valuation stack ts = Evaluation.run other stack ts := by
    induction ts generalizing stack with
    | nil => rfl
    | cons t ts ih =>
        have step : Evaluation.step valuation stack t = Evaluation.step other stack t := by
          cases t with
          | var x => rw [Evaluation.step, Evaluation.step, agree x List.mem_cons_self]
          | operator op => cases op <;> rfl
          | _ => rfl
        have rest := ih fun x mem => agree x (List.mem_cons_of_mem t mem)
        rw [Evaluation.run, Evaluation.run, List.foldlM_cons, List.foldlM_cons, step]
        exact congrArg (_ >>= ·) (funext rest)
  rw [evaluate, evaluate, run]

namespace BooleanFunction

variable {text : String} {f : BooleanFunction} {assignment : Assignment}

/-- Evaluation of a function made from a formula runs the postorder of the formula. -/
theorem evaluate_eq_postorder {tree : Formula} (made : ofFormula text = .ok f)
    (parsed : Formula.parse text = .ok tree) (assignment : Assignment) :
    f.evaluate assignment =
      (Junctor.evaluate assignment.valuation tree.postorder).mapError Fault.formula := by
  obtain ⟨tree', again, origin, -, -⟩ := ofFormula_eq_ok made
  obtain rfl := Except.ok.inj (parsed.symm.trans again)
  rw [evaluate, origin]

/-- The variables of a function made from a formula occur in the text. -/
theorem mem_names_iff_mem_tokens (made : ofFormula text = .ok f) (read : tokens text = .ok ts) :
    x ∈ f.names ↔ .var x ∈ ts := by
  rw [names_of_ofFormula read made, mem_sortedNames_tokens]

/-- A function made from a formula is **not evaluated** for lack of the first variable
without a value. -/
theorem evaluate_of_firstUnbound (made : ofFormula text = .ok f) (read : tokens text = .ok ts)
    (first : FirstUnbound assignment.valuation ts x) :
    f.evaluate assignment = .error (.formula (.unknownVariable x)) := by
  obtain ⟨tree, parsed⟩ := exists_parse_of_ofFormula made
  obtain ⟨ts', again, order⟩ := Formula.parse_eq_ok_iff.mp parsed
  obtain rfl := Except.ok.inj (read.symm.trans again)
  rw [evaluate_eq_postorder made parsed,
    Junctor.evaluate_of_firstUnbound ((firstUnbound_toReversePolish_iff order).mpr first)]
  rfl

/-- Where all its variables are bound, a function made from a formula has the result in the
row of what the values count as. -/
theorem evaluate_of_all_bound (made : ofFormula text = .ok f)
    (bound : ∀ x ∈ f.names, x ∈ assignment.map Prod.fst) :
    ∃ row b, f.rowAt (rowIndex (f.names.map fun x => .truth (assignment.holds x))) = .ok row ∧
      row.result = .truth b ∧ f.evaluate assignment = .ok b := by
  obtain ⟨tree, parsed, origin, -⟩ := ofFormula_eq_ok made
  obtain ⟨row, there, result⟩ :=
    (Made.formula made).exists_rowAt (.formula origin parsed) assignment.holds
  exact ⟨row, _, there, result, Made.evaluate_formula made parsed fun x mem =>
    Assignment.valuation_eq_some (bound x mem)⟩

/-- A function made from a formula has the same value where its variables count as the same. -/
theorem evaluate_eq_of_agree (made : ofFormula text = .ok f) {other : Assignment}
    (agree : ∀ x ∈ f.names, assignment.valuation x = other.valuation x) :
    f.evaluate assignment = f.evaluate other := by
  obtain ⟨tree, parsed, -, -, named⟩ := ofFormula_eq_ok made
  rw [evaluate_eq_postorder made parsed, evaluate_eq_postorder made parsed,
    evaluate_congr fun x mem => agree x ((named x).mpr (Formula.mem_names_iff.mpr mem))]

/-- A function made from a formula is evaluated **by its own variables**. Evaluation fails
exactly if a variable of the text is not bound, and then for lack of the leftmost one.
Otherwise the value is the result in the row of what the values count as. It is the same for
any two assignments that bind the variables of the text to values that count as the same,
whatever else they bind. -/
theorem evaluate_by_own_variables (made : ofFormula text = .ok f) :
    ∃ ts, tokens text = .ok ts ∧
      (∀ assignment : Assignment,
        ((∃ fault, f.evaluate assignment = .error fault) ↔
          ∃ x, .var x ∈ ts ∧ x ∉ assignment.map Prod.fst) ∧
        (∀ fault, f.evaluate assignment = .error fault →
          ∃ x, LeftmostUnbound assignment text x ∧ fault = .formula (.unknownVariable x) ∧
            fault.message = "unknown variable: " ++ x) ∧
        ((∀ x, .var x ∈ ts → x ∈ assignment.map Prod.fst) →
          ∃ row b, f.rowAt (rowIndex (f.names.map fun x => .truth (assignment.holds x))) = .ok row ∧
            row.result = .truth b ∧ f.evaluate assignment = .ok b)) ∧
      ∀ first second : Assignment, (∀ x, .var x ∈ ts → first.valuation x = second.valuation x) →
        f.evaluate first = f.evaluate second := by
  obtain ⟨tree, parsed⟩ := exists_parse_of_ofFormula made
  obtain ⟨ts, read, -⟩ := Formula.parse_eq_ok_iff.mp parsed
  have occurs (x : String) : x ∈ f.names ↔ .var x ∈ ts := mem_names_iff_mem_tokens made read
  refine ⟨ts, read, fun assignment => ?_,
    fun first second agree => evaluate_eq_of_agree made fun x mem => agree x ((occurs x).mp mem)⟩
  by_cases lacking : ∃ x, .var x ∈ ts ∧ x ∉ assignment.map Prod.fst
  · obtain ⟨x, first⟩ : ∃ x, FirstUnbound assignment.valuation ts x := by
      simpa only [exists_firstUnbound_iff, Assignment.valuation_eq_none_iff] using lacking
    have failed := evaluate_of_firstUnbound made read first
    refine ⟨iff_of_true ⟨_, failed⟩ lacking, fun fault same => ?_, fun bound => ?_⟩
    · obtain rfl := Except.error.inj (failed.symm.trans same)
      exact ⟨x, first.leftmost read, rfl, rfl⟩
    · obtain ⟨x, mem, unbound⟩ := lacking
      exact absurd (bound x mem) unbound
  · have bound : ∀ x ∈ f.names, x ∈ assignment.map Prod.fst := fun x mem =>
      Decidable.byContradiction fun unbound => lacking ⟨x, (occurs x).mp mem, unbound⟩
    obtain ⟨row, b, there, result, value⟩ := evaluate_of_all_bound made bound
    refine ⟨iff_of_false ?_ lacking, fun fault failed => ?_,
      fun _ => ⟨row, b, there, result, value⟩⟩
    · rintro ⟨fault, failed⟩
      cases value.symm.trans failed
    · cases value.symm.trans failed

/-- In `c → b ∧ a` the leftmost variable is `c`, which is the last one of the function. With
-3 for `c`, the empty text for `b` and a list that is not empty for `a` the value stands in
the row with the number 5, as it does with truth values and without `y`. -/
theorem evaluate_by_own_variables_implication :
    ∃ f, ofFormula "c → b ∧ a" = .ok f ∧ f.names = ["a", "b", "c"] ∧
      LeftmostUnbound [("a", .int 1)] "c → b ∧ a" "c" ∧
      f.evaluate [("a", .int 1)] = .error (.formula (.unknownVariable "c")) ∧
      (∃ row b, f.rowAt 5 = .ok row ∧ row.result = .truth b ∧
        f.evaluate [("y", .null), ("c", .int (-3)), ("b", .text ""), ("a", .list [.null])] =
        .ok b) ∧
      f.evaluate [("y", .null), ("c", .int (-3)), ("b", .text ""), ("a", .list [.null])] =
        f.evaluate [("a", .truth true), ("b", .truth false), ("c", .truth true)] := by
  have parsed : Formula.parse "c → b ∧ a" =
      .ok (.binary .implies (.var "c") (.binary .and (.var "b") (.var "a"))) :=
    eq_ok_of_toOption (by decide +kernel)
  obtain ⟨f, made, -⟩ := ofFormula_of_parse parsed
  have names : f.names = ["a", "b", "c"] := (names_of_parse parsed made).trans (by decide)
  have spelled : tokens "c → b ∧ a" = .ok [.var "c", .operator (.binary .implies), .var "b",
      .operator (.binary .and), .var "a"] :=
    eq_ok_of_toOption (by decide +kernel)
  obtain ⟨ts, read, values, agree⟩ := evaluate_by_own_variables made
  obtain rfl := Except.ok.inj (spelled.symm.trans read)
  have all {x : String} (mem : .var x ∈ [Token.var "c", .operator (.binary .implies), .var "b",
      .operator (.binary .and), .var "a"]) : x = "c" ∨ x = "b" ∨ x = "a" := by
    simpa using mem
  obtain ⟨failing, leftmost, -⟩ := values [("a", .int 1)]
  obtain ⟨fault, failed⟩ := failing.mpr ⟨"c", by decide, by decide⟩
  obtain ⟨x, place, rfl, -⟩ := leftmost fault failed
  obtain rfl : "c" = x := by
    have first := failed.symm.trans (evaluate_of_firstUnbound made spelled rfl)
    cases first
    rfl
  obtain ⟨-, -, value⟩ :=
    values [("y", .null), ("c", .int (-3)), ("b", .text ""), ("a", .list [.null])]
  have bound := value fun x mem => by rcases all mem with rfl | rfl | rfl <;> decide
  have same := agree [("y", .null), ("c", .int (-3)), ("b", .text ""), ("a", .list [.null])]
    [("a", .truth true), ("b", .truth false), ("c", .truth true)] fun x mem => by
      rcases all mem with rfl | rfl | rfl <;> decide
  rw [names] at bound
  exact ⟨f, made, names, place, failed, bound, same⟩

end BooleanFunction

end Junctor
