import Junctor.Formula.Parse
import Junctor.Proofs.Outcomes
import Junctor.ReversePolish.Depth
import Junctor.ReversePolish.Evaluation

/-!
# The Stack Machines and the Meaning of Formulas

Tokens in reverse Polish order are read by three machines: one builds a formula, one
evaluates, and one merely counts values. The machine that builds carries the most
information. The number of formulas on its stack is what the counting machine has, and the
truth values of these formulas are what the evaluating machine has, so that a fact about
building is a fact about all three.

What a formula means is said twice: `Formula.eval` computes a truth value, and
`Formula.Holds` is the proposition that the formula states.

## Main results

* `Formula.eval_eq_true_iff`: the computed truth value is that of the proposition.
* `Depth.run_length`, `Evaluation.run_eval`: the machines that count and evaluate follow the
  one that builds.
* `Formula.ofReversePolish_eq_ok_iff`: a formula is built exactly from its postorder.
* `checkDepth_eq_ok_iff`, `evaluate_postorder`, `evaluate_of_not_postorder`: what this says
  about the other two machines.
-/

namespace Junctor

/-! ### The proposition that a formula states -/

namespace Formula

/-- The **proposition** that a formula states, where `v` says which variables hold; the
connectives are those of logic. -/
def Holds (v : String → Prop) : Formula → Prop
  | var name => v name
  | const value => value = true
  | not a => ¬ a.Holds v
  | binary .and a b => a.Holds v ∧ b.Holds v
  | binary .or a b => a.Holds v ∨ b.Holds v
  | binary .xor a b => ¬ (a.Holds v ↔ b.Holds v)
  | binary .implies a b => a.Holds v → b.Holds v
  | binary .iff a b => a.Holds v ↔ b.Holds v

/-- The computed truth value is that of the proposition: a formula **is true exactly if it
holds**. -/
theorem eval_eq_true_iff (v : String → Bool) (f : Formula) :
    f.eval v = true ↔ f.Holds fun x => v x = true := by
  induction f with
  | var name => rfl
  | const value => rfl
  | not a ih => rw [eval, Holds, ← ih, Bool.not_eq_true', Bool.not_eq_true]
  | binary c a b ihA ihB =>
      cases c <;> rw [eval, Holds, ← ihA, ← ihB] <;>
        cases a.eval v <;> cases b.eval v <;> decide

/-- The proposition depends only on which of the variables hold that occur. -/
theorem holds_congr {v w : String → Prop} {f : Formula} (agree : ∀ x ∈ f.names, (v x ↔ w x)) :
    f.Holds v ↔ f.Holds w := by
  induction f with
  | var name => exact agree name (by simp [names])
  | const value => rfl
  | not a ih => rw [Holds, Holds, ih agree]
  | binary c a b ihA ihB =>
      have left : a.Holds v ↔ a.Holds w := ihA fun x mem => agree x (by simp [names, mem])
      have right : b.Holds v ↔ b.Holds w := ihB fun x mem => agree x (by simp [names, mem])
      cases c <;> rw [Holds, Holds, left, right]

/-- The variables of a formula are those of its postorder. -/
theorem mem_names_iff {x : String} {f : Formula} : x ∈ f.names ↔ .var x ∈ f.postorder := by
  induction f with
  | var name => simp [names, postorder]
  | const value => simp [names, postorder]
  | not a ih => simp [names, postorder, ih]
  | binary c a b ihA ihB => simp [names, postorder, ihA, ihB]

/-- Every formula has an operand in its postorder. -/
theorem one_le_countP_postorder (f : Formula) : 1 ≤ f.postorder.countP Token.isOperand := by
  induction f with
  | var name => simp [postorder, Token.isOperand, Token.isVariable]
  | const value => simp [postorder, Token.isOperand, Token.isConstant]
  | not a ih => simp only [postorder, List.countP_append]; omega
  | binary c a b ihA ihB => simp only [postorder, List.countP_append]; omega

end Formula

/-! ### Machines in step -/

/-- A value that is there is what it is by default. -/
theorem eq_some_getD {value : Option Bool} (h : value.isSome = true) :
    value = some (value.getD false) := by
  obtain ⟨b, rfl⟩ := Option.isSome_iff_exists.mp h
  rfl

/-- The machine that counts follows the one that builds, token by token. -/
theorem Depth.step_length (stack : List Formula) (t : Token) :
    Depth.step stack.length t = ((Formula.buildStep stack t).map List.length).mapError id := by
  cases t with
  | operator op =>
      rcases op with _ | c
      · cases stack <;> rfl
      · match stack with
        | [] => rfl
        | [_] => rfl
        | _ :: _ :: rest =>
            have enough : ¬ rest.length + 1 + 1 < (Operator.binary c).arity.operands := by
              simp [Operator.arity, Arity.operands]
            simp only [Depth.step, List.length_cons, if_neg enough]
            rfl
  | _ => rfl

/-- The machine that counts follows the one that builds: its count is the height of the
other's stack. -/
theorem Depth.run_length (stack : List Formula) (tokens : List Token) :
    Depth.run stack.length tokens =
      ((Formula.build stack tokens).map List.length).mapError id :=
  foldlM_simulates List.length id (fun stack t _ => Depth.step_length stack t) stack

/-- What the machine that evaluates says of an error of the one that builds. -/
def FormulaError.whileEvaluating : FormulaError → FormulaError
  | unknownToken token => unknownOperator token
  | e => e

/-- The machine that evaluates follows the one that builds, token by token, as long as the
variables have values. -/
theorem Evaluation.step_eval {valuation : Valuation} {v : String → Bool} (stack : List Formula)
    {t : Token} (bound : ∀ x, t = .var x → valuation x = some (v x)) :
    Evaluation.step valuation (stack.map (·.eval v)) t =
      ((Formula.buildStep stack t).map (List.map (·.eval v))).mapError
        FormulaError.whileEvaluating := by
  cases t with
  | var x => rw [Evaluation.step, bound x rfl]; rfl
  | operator op =>
      rcases op with _ | c
      · cases stack <;> rfl
      · match stack with
        | [] => rfl
        | [_] => rfl
        | _ :: _ :: _ => rfl
  | _ => rfl

/-- The machine that evaluates **follows** the one that builds, if all variables of the
tokens have values. -/
theorem Evaluation.run_eval {valuation : Valuation} {v : String → Bool} (stack : List Formula)
    {tokens : List Token} (bound : ∀ x, .var x ∈ tokens → valuation x = some (v x)) :
    Evaluation.run valuation (stack.map (·.eval v)) tokens =
      ((Formula.build stack tokens).map (List.map (·.eval v))).mapError
        FormulaError.whileEvaluating :=
  foldlM_simulates (List.map (·.eval v)) _
    (fun stack _ mem => Evaluation.step_eval stack fun x same => bound x (same ▸ mem)) stack

/-! ### Building and postorder -/

namespace Formula

/-- Building goes on from where it stopped. -/
theorem build_append (stack : List Formula) (tokens more : List Token) :
    build stack (tokens ++ more) = build stack tokens >>= (build · more) := by
  simp only [build, List.foldlM_append]

/-- The postorder of a formula puts it on the stack. -/
theorem build_postorder (stack : List Formula) (f : Formula) :
    build stack f.postorder = .ok (f :: stack) := by
  induction f generalizing stack with
  | var name => rfl
  | const value => rfl
  | not a ih => rw [postorder, build_append, ih]; rfl
  | binary c a b ihA ihB =>
      rw [postorder, build_append, build_append, ihA]
      show (build (a :: stack) b.postorder >>= _) = _
      rw [ihB]
      rfl

/-- The tokens from which the formulas on a stack were built. -/
def spelling (stack : List Formula) : List Token := stack.reverse.flatMap postorder

/-- The spelling of a stack ends with the postorder of its top. -/
@[simp] theorem spelling_cons (f : Formula) (stack : List Formula) :
    spelling (f :: stack) = spelling stack ++ f.postorder := by
  simp [spelling]

/-- A token that is built in comes last in the spelling of the stack. -/
theorem spelling_of_buildStep {stack next : List Formula} {t : Token}
    (h : buildStep stack t = .ok next) : spelling next = spelling stack ++ [t] := by
  cases t with
  | var name => cases h; rw [spelling_cons, postorder]
  | const value => cases h; rw [spelling_cons, postorder]
  | operator op =>
      rcases op with _ | c
      · match stack, h with
        | a :: stack, h =>
            cases h
            simp only [spelling_cons, postorder, List.append_assoc]
      · match stack, h with
        | b :: a :: stack, h =>
            cases h
            simp only [spelling_cons, postorder, List.append_assoc]
  | openParen => cases h
  | closeParen => cases h
  | unknown text => cases h

/-- What was built in comes last in the spelling of the stack. -/
theorem spelling_of_build {stack next : List Formula} {tokens : List Token}
    (h : build stack tokens = .ok next) : spelling next = spelling stack ++ tokens := by
  induction tokens generalizing stack with
  | nil => cases h; simp
  | cons t tokens ih =>
      rw [build, List.foldlM_cons] at h
      obtain ⟨middle, first, rest⟩ := bind_eq_ok_iff.mp h
      rw [ih rest, spelling_of_buildStep first, List.append_assoc, List.singleton_append]

/-- A formula is built **exactly from its postorder**, and so no two formulas are built from
the same tokens. -/
theorem ofReversePolish_eq_ok_iff {tokens : List Token} {f : Formula} :
    ofReversePolish tokens = .ok f ↔ tokens = f.postorder := by
  constructor
  · intro h
    obtain ⟨stack, built, last⟩ := bind_eq_ok_iff.mp h
    match stack, last with
    | [g], last =>
        cases last
        have spelled : spelling [f] = spelling [] ++ tokens := spelling_of_build built
        simpa [spelling] using spelled.symm
  · rintro rfl
    rw [ofReversePolish, build_postorder]
    rfl

end Formula

/-! ### The two other machines -/

/-- Counting goes on from where it stopped. -/
theorem Depth.run_append (depth : Nat) (ts us : List Token) :
    Depth.run depth (ts ++ us) = Depth.run depth ts >>= (Depth.run · us) := by
  simp only [Depth.run, List.foldlM_append]

/-- The check of the depth passes if one value is left in the end. -/
theorem checkDepth_eq_ok_iff_run {tokens : List Token} :
    checkDepth tokens = .ok () ↔ Depth.run 0 tokens = .ok 1 := by
  constructor
  · intro h
    obtain ⟨depth, ran, last⟩ := bind_eq_ok_iff.mp h
    split at last
    · next one => exact one ▸ ran
    · cases last
  · intro ran
    rw [checkDepth, ran]
    rfl

/-- The check of the depth passes **exactly postorders**, although it knows nothing of
trees. -/
theorem checkDepth_eq_ok_iff {tokens : List Token} :
    checkDepth tokens = .ok () ↔ ∃ f : Formula, tokens = f.postorder := by
  have count : Depth.run 0 tokens = _ := Depth.run_length [] tokens
  constructor
  · intro h
    have ran := checkDepth_eq_ok_iff_run.mp h
    rw [count, mapError_eq_ok_iff] at ran
    cases built : Formula.build [] tokens with
    | error e => rw [built] at ran; cases ran
    | ok stack =>
        rw [built] at ran
        obtain ⟨f, rfl⟩ := List.length_eq_one_iff.mp (Except.ok.inj ran)
        exact ⟨f, by simpa [Formula.spelling] using (Formula.spelling_of_build built).symm⟩
  · rintro ⟨f, rfl⟩
    rw [checkDepth, count, Formula.build_postorder]
    rfl

/-- The postorder of a formula is evaluated to its truth value, if its variables have
values. -/
theorem evaluate_postorder {valuation : Valuation} {v : String → Bool} {f : Formula}
    (bound : ∀ x, .var x ∈ f.postorder → valuation x = some (v x)) :
    evaluate valuation f.postorder = .ok (f.eval v) := by
  have run : Evaluation.run valuation [] f.postorder = _ := Evaluation.run_eval [] bound
  rw [evaluate, run, Formula.build_postorder]
  rfl

/-- Nothing but a postorder is evaluated without an error, even where all its variables have
values. -/
theorem evaluate_of_not_postorder {valuation : Valuation} {v : String → Bool} {tokens : List Token}
    (bound : ∀ x, .var x ∈ tokens → valuation x = some (v x))
    (unspelled : ∀ f : Formula, tokens ≠ f.postorder) :
    ∃ e, evaluate valuation tokens = .error e := by
  have run : Evaluation.run valuation [] tokens = _ := Evaluation.run_eval [] bound
  rw [evaluate, run]
  cases built : Formula.build [] tokens with
  | error e => exact ⟨e.whileEvaluating, rfl⟩
  | ok stack =>
      match stack with
      | [] => exact ⟨_, rfl⟩
      | [f] =>
          have same : tokens = f.postorder := by
            simpa [Formula.spelling] using (Formula.spelling_of_build built).symm
          exact absurd same (unspelled f)
      | _ :: _ :: _ => exact ⟨_, rfl⟩

end Junctor
