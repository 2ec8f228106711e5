import Junctor.Proofs.StackMachines

/-!
# How the Stack Machines End

On any token list at all the three machines go side by side, whatever the tokens and their
order are. Either all of them get through and are left with one value, or all of them refuse
the same token, or all of them reach the end with the same wrong number of values. They
differ in the words only: a token that does not belong in reverse Polish order is an unknown
operator to the machine that evaluates and an unknown token to the other two.

Building carries the most information, so that it decides which case holds; the other two
machines follow it on the tokens before the one that is refused, and on this one.

## Main results

* `StopsAt`: the token that a machine refuses.
* `StopsAt.counting`, `StopsAt.evaluating`: the other machines refuse what the one that
  builds does.
* `machines_end_alike`: the outcomes of the three machines.
-/

namespace Junctor

/-! ### The token that is refused -/

/-- A machine **stops at** a token: it takes the tokens before it, and it fails at this one. -/
structure StopsAt {σ : Type} (run : List Token → Except FormulaError σ) (before : List Token)
    (t : Token) (cause : FormulaError) : Prop where
  /-- The tokens before are taken. -/
  goes : ∃ state, run before = .ok state
  /-- The token is refused. -/
  stops : run (before ++ [t]) = .error cause

namespace StopsAt

variable {σ υ : Type} {run : List Token → Except FormulaError σ}
variable {other : List Token → Except FormulaError υ} {before : List Token} {t : Token}
variable {cause : FormulaError}

/-- A machine stops where its step refuses a token. -/
theorem of_step {step : σ → Token → Except FormulaError σ} {start last : σ}
    (taken : before.foldlM step start = .ok last) (refused : step last t = .error cause) :
    StopsAt (List.foldlM step start) before t cause where
  goes := ⟨last, taken⟩
  stops := by
    rw [List.foldlM_append, taken]
    show (step last t >>= _) = _
    rw [refused]
    rfl

/-- A machine that follows another one stops at the same token. -/
theorem followed (h : StopsAt run before t cause) (φ : σ → υ) (ψ : FormulaError → FormulaError)
    (taken : other before = ((run before).map φ).mapError ψ)
    (refused : other (before ++ [t]) = ((run (before ++ [t])).map φ).mapError ψ) :
    StopsAt other before t (ψ cause) where
  goes := by
    obtain ⟨state, goes⟩ := h.goes
    rw [taken, goes]
    exact ⟨φ state, rfl⟩
  stops := by
    rw [refused, h.stops]
    rfl

/-- The machine that counts stops where the one that builds does, and it objects to the same
token. -/
theorem counting (h : StopsAt (Formula.build []) before t cause) :
    StopsAt (Depth.run 0) before t cause :=
  h.followed List.length id (Depth.run_length [] before) (Depth.run_length [] (before ++ [t]))

/-- The machine that **evaluates** stops where the one that builds does, if the variables up
to there have values. -/
theorem evaluating {valuation : Valuation} (h : StopsAt (Formula.build []) before t cause)
    (bound : ∀ x, .var x ∈ before ++ [t] → (valuation x).isSome = true) :
    StopsAt (Evaluation.run valuation []) before t cause.whileEvaluating :=
  h.followed _ _
    (Evaluation.run_eval [] fun x mem => eq_some_getD (bound x (List.mem_append_left _ mem)))
    (Evaluation.run_eval [] fun x mem => eq_some_getD (bound x mem))

end StopsAt

/-- The machine that builds refuses an operator for lack of operands, and any other token
only if it is no operand either. -/
theorem Formula.buildStep_eq_error {stack : List Formula} {t : Token} {e : FormulaError}
    (h : buildStep stack t = .error e) :
    (∃ op, t = .operator op ∧ e = .lacksOperands op.symbol) ∨
      (t.isOperand = false ∧ t.isOperator = false ∧ e = .unknownToken t.text) := by
  cases t with
  | var name => cases h
  | const value => cases h
  | operator op =>
      refine .inl ⟨op, rfl, ?_⟩
      rcases op with _ | c
      · match stack, h with
        | [], h => cases h; rfl
      · match stack, h with
        | [], h => cases h; rfl
        | [_], h => cases h; rfl
  | openParen => cases h; exact .inr ⟨rfl, rfl, rfl⟩
  | closeParen => cases h; exact .inr ⟨rfl, rfl, rfl⟩
  | unknown text => cases h; exact .inr ⟨rfl, rfl, rfl⟩

/-! ### The outcomes -/

/-- The **outcomes** of checking the depth, of evaluating and of building on the same
tokens. -/
inductive Endings (valuation : Valuation) (ts : List Token) :
    Except FormulaError Unit → Except FormulaError Bool → Except FormulaError Formula → Prop where
  /-- All succeed, and the value is that of the proposition that the formula states. -/
  | success {value : Bool} {f : Formula}
      (meaning : value = true ↔ f.Holds fun x => valuation x = some true) :
      Endings valuation ts (.ok ()) (.ok value) (.ok f)
  /-- All stop at the same operator, for lack of operands. -/
  | lack {before after : List Token} {op : Operator} (place : ts = before ++ .operator op :: after)
      (counting : StopsAt (Depth.run 0) before (.operator op) (.lacksOperands op.symbol))
      (evaluating :
        StopsAt (Evaluation.run valuation []) before (.operator op) (.lacksOperands op.symbol))
      (building : StopsAt (Formula.build []) before (.operator op) (.lacksOperands op.symbol)) :
      Endings valuation ts (.error (.lacksOperands op.symbol)) (.error (.lacksOperands op.symbol))
        (.error (.lacksOperands op.symbol))
  /-- All stop at the same token that is neither an operand nor an operator. -/
  | stranger {before after : List Token} {t : Token} (place : ts = before ++ t :: after)
      (noOperand : t.isOperand = false) (noOperator : t.isOperator = false)
      (counting : StopsAt (Depth.run 0) before t (.unknownToken t.text))
      (evaluating : StopsAt (Evaluation.run valuation []) before t (.unknownOperator t.text))
      (building : StopsAt (Formula.build []) before t (.unknownToken t.text)) :
      Endings valuation ts (.error (.unknownToken t.text)) (.error (.unknownOperator t.text))
        (.error (.unknownToken t.text))
  /-- All reach the end with the same number of values, which is not one. -/
  | remainder {count : Nat} (many : count ≠ 1) :
      Endings valuation ts (.error (.valuesRemain count)) (.error (.valuesRemain count))
        (.error (.subexpressionsRemain count))

/-- A token list on which building stops has an error in all three outcomes. -/
theorem outcomes_of_error {valuation : Valuation} {v : String → Bool} {ts : List Token}
    {e : FormulaError} (bound : ∀ x, .var x ∈ ts → valuation x = some (v x))
    (built : Formula.build [] ts = .error e) :
    checkDepth ts = .error e ∧ evaluate valuation ts = .error e.whileEvaluating ∧
      Formula.ofReversePolish ts = .error e := by
  have counted : Depth.run 0 ts = _ := Depth.run_length [] ts
  have valued : Evaluation.run valuation [] ts = _ := Evaluation.run_eval [] bound
  rw [checkDepth, evaluate, Formula.ofReversePolish, counted, valued, built]
  exact ⟨rfl, rfl, rfl⟩

/-- With another number of values than one the check of the depth fails. -/
theorem checkDepth_of_run {ts : List Token} {count : Nat} (ran : Depth.run 0 ts = .ok count)
    (many : count ≠ 1) : checkDepth ts = .error (.valuesRemain count) := by
  rw [checkDepth, ran]
  show (if count = 1 then _ else _) = _
  rw [if_neg many]
  rfl

/-- With another number of values than one evaluation fails. -/
theorem evaluate_of_run {valuation : Valuation} {ts : List Token} {values : List Bool}
    (ran : Evaluation.run valuation [] ts = .ok values) (many : values.length ≠ 1) :
    evaluate valuation ts = .error (.valuesRemain values.length) := by
  rw [evaluate, ran]
  rcases values with _ | ⟨value, _ | ⟨next, rest⟩⟩
  · rfl
  · exact absurd rfl many
  · rfl

/-- With another number of formulas than one building fails. -/
theorem Formula.ofReversePolish_of_build {ts : List Token} {stack : List Formula}
    (built : build [] ts = .ok stack) (many : stack.length ≠ 1) :
    ofReversePolish ts = .error (.subexpressionsRemain stack.length) := by
  rw [ofReversePolish, built]
  rcases stack with _ | ⟨f, _ | ⟨g, rest⟩⟩
  · rfl
  · exact absurd rfl many
  · rfl

/-- The outcomes where building goes through to the end. -/
theorem endings_of_stack {valuation : Valuation} {v : String → Bool} {ts : List Token}
    {stack : List Formula} (bound : ∀ x, .var x ∈ ts → valuation x = some (v x))
    (built : Formula.build [] ts = .ok stack) :
    Endings valuation ts (checkDepth ts) (evaluate valuation ts) (Formula.ofReversePolish ts) := by
  by_cases one : stack.length = 1
  · obtain ⟨f, rfl⟩ := List.length_eq_one_iff.mp one
    obtain rfl : ts = f.postorder := by
      simpa [Formula.spelling] using (Formula.spelling_of_build built).symm
    rw [checkDepth_eq_ok_iff.mpr ⟨f, rfl⟩, evaluate_postorder bound,
      Formula.ofReversePolish_eq_ok_iff.mpr rfl]
    refine .success ?_
    rw [Formula.eval_eq_true_iff]
    refine Formula.holds_congr fun x mem => ?_
    rw [bound x (Formula.mem_names_iff.mp mem), Option.some.injEq]
  · have counted : Depth.run 0 ts = _ := Depth.run_length [] ts
    have valued : Evaluation.run valuation [] ts = _ := Evaluation.run_eval [] bound
    rw [built] at counted valued
    have values : (stack.map (·.eval v)).length = stack.length := List.length_map _
    rw [checkDepth_of_run counted one, evaluate_of_run valued (values ▸ one), values,
      Formula.ofReversePolish_of_build built one]
    exact .remainder one

/-- On any tokens whose variables have values the three machines **end alike**: they succeed
together, with the value of the formula that is built, they stop together at one token, or
they are left with the same number of values. -/
theorem machines_end_alike {valuation : Valuation} {ts : List Token}
    (bound : ∀ x, .var x ∈ ts → (valuation x).isSome = true) :
    Endings valuation ts (checkDepth ts) (evaluate valuation ts) (Formula.ofReversePolish ts) := by
  cases built : Formula.build [] ts with
  | ok stack => exact endings_of_stack (fun x mem => eq_some_getD (bound x mem)) built
  | error e =>
      obtain ⟨counted, valued, failed⟩ :=
        outcomes_of_error (fun x mem => eq_some_getD (bound x mem)) built
      obtain ⟨before, t, after, stack, rfl, taken, refused⟩ := exists_of_foldlM_eq_error built
      have building : StopsAt (Formula.build []) before t e := .of_step taken refused
      have evaluating := building.evaluating fun x mem => bound x (by
        rw [List.append_cons]
        exact List.mem_append_left after mem)
      rw [counted, valued, failed]
      rcases Formula.buildStep_eq_error refused with
        ⟨op, rfl, rfl⟩ | ⟨noOperand, noOperator, rfl⟩
      · exact .lack rfl building.counting evaluating building
      · exact .stranger rfl noOperand noOperator building.counting evaluating building

/-- The tokens `a ¬ b →` make a formula, which is false where both variables are, and of
`a ∨ b (` no machine takes the operator. -/
theorem machines_end_alike_implication :
    Endings (fun _ => some false)
        [.var "a", .operator .negation, .var "b", .operator (.binary .implies)]
        (.ok ()) (.ok false) (.ok (.binary .implies (.not (.var "a")) (.var "b"))) ∧
      Endings (fun _ => some false)
        [.var "a", .operator (.binary .or), .var "b", .openParen]
        (.error (.lacksOperands "∨")) (.error (.lacksOperands "∨")) (.error (.lacksOperands "∨")) :=
  ⟨machines_end_alike fun _ _ => rfl, machines_end_alike fun _ _ => rfl⟩

end Junctor
