import Mathlib.Logic.Function.Basic
import Junctor.Proofs.Reading

/-!
# Tokens in Place of Variables

The variables among the tokens of a formula may give way to other tokens. If these do in the
yard what a variable does, namely put something out and nothing else, the rest of the run
does not notice. This needs no grammar: it holds of all tokens that the yard takes, also
where operators do not stand between their operands.

A variable by itself puts itself out. So do tokens in parentheses their reverse Polish order:
a parenthesis that waits seals off everything below it, so that they are put out just as they
would be by a yard of their own, and they leave the stack as it was.

## Main results

* `Yard.step_above`, `Yard.run_above`: a yard on top of another one does what it does alone.
* `Yard.puts_enclosed`: what tokens in parentheses put out.
* `toReversePolish_replaceVariables`: the reverse Polish order with tokens in place of
  variables.
* `Formula.postorder_subst`: it is that of the formula with other ones in their place.
* `evaluate_replaceVariable`: its value is that with a variable bound to the value of the
  tokens.
-/

namespace Junctor

/-! ### Tokens in place of variables -/

/-- The tokens with images in place of all variables, and everything else as it was. -/
def replaceVariables (images : String → List Token) (ts : List Token) : List Token :=
  ts.flatMap fun
    | .var x => images x
    | t => [t]

/-- The tokens with an image in place of every variable of a name. -/
def replaceVariable (x : String) (image ts : List Token) : List Token :=
  ts.flatMap fun t => if t = .var x then image else [t]

section

variable {images : String → List Token} {x : String} {image : List Token}

/-- A variable is replaced. -/
theorem replaceVariables_var (x : String) (ts : List Token) :
    replaceVariables images (.var x :: ts) = images x ++ replaceVariables images ts :=
  List.flatMap_cons

/-- Any other token stays. -/
theorem replaceVariables_cons {t : Token} (other : ∀ x, t ≠ .var x) (ts : List Token) :
    replaceVariables images (t :: ts) = t :: replaceVariables images ts := by
  cases t with
  | var x => exact absurd rfl (other x)
  | _ => rfl

/-- Replacing goes through both parts of a list. -/
theorem replaceVariables_append (ts us : List Token) :
    replaceVariables images (ts ++ us) = replaceVariables images ts ++ replaceVariables images us :=
  List.flatMap_append

/-- Into a list backwards the images are put backwards. -/
theorem reverse_replaceVariables (images : String → List Token) (ts : List Token) :
    (replaceVariables (fun x => (images x).reverse) ts).reverse =
      replaceVariables images ts.reverse := by
  induction ts with
  | nil => rfl
  | cons t ts ih =>
      rw [List.reverse_cons, replaceVariables_append, ← ih]
      cases t with
      | var x => simp [replaceVariables]
      | _ => simp [replaceVariables]

/-- To replace one variable is to replace all of them, the others by themselves. -/
theorem replaceVariables_update (x : String) (image ts : List Token) :
    replaceVariables (Function.update (fun y => [.var y]) x image) ts =
      replaceVariable x image ts := by
  refine congrArg (ts.flatMap ·) (funext fun t => ?_)
  cases t with
  | var y =>
      by_cases same : y = x
      · subst same
        simp
      · simp [same]
  | _ => simp

/-- A variable of the name is replaced. -/
theorem replaceVariable_var (ts : List Token) :
    replaceVariable x image (.var x :: ts) = image ++ replaceVariable x image ts := by
  simp [replaceVariable]

/-- Any other token stays. -/
theorem replaceVariable_cons {t : Token} (other : t ≠ .var x) (ts : List Token) :
    replaceVariable x image (t :: ts) = t :: replaceVariable x image ts := by
  simp [replaceVariable, other]

/-- The postorder of a formula with others in place of its variables has **the postorders of
the others** in their place. -/
theorem Formula.postorder_subst (images : String → Formula) (f : Formula) :
    (f.subst images).postorder = replaceVariables (fun x => (images x).postorder) f.postorder := by
  induction f with
  | var name => exact (List.append_nil _).symm
  | const value => rfl
  | not a ih => rw [subst, postorder, ih, postorder, replaceVariables_append]; rfl
  | binary c a b ihA ihB =>
      rw [subst, postorder, ihA, ihB, postorder, replaceVariables_append, replaceVariables_append]
      rfl

/-- The postorder of a formula with another one in place of a variable has the postorder of the
other in its place. -/
theorem Formula.postorder_subst_update (g f : Formula) :
    (f.subst (Function.update .var x g)).postorder =
      replaceVariable x g.postorder f.postorder := by
  rw [postorder_subst, ← replaceVariables_update]
  refine congrArg (replaceVariables · f.postorder) (funext fun y => ?_)
  exact Function.apply_update (fun _ => postorder) Formula.var x g y

end

/-! ### Tokens in parentheses -/

namespace Yard

/-- A yard on top of another one, with a parenthesis that waits in between. -/
def above (yard below : Yard) : Yard :=
  { output := yard.output ++ below.output, stack := yard.stack ++ .paren :: below.stack }

/-- Nothing is released from below a parenthesis. -/
theorem release_above (leaves : Operator → Bool) (output earlier : List Token)
    (stack below : List Pending) :
    release leaves (output ++ earlier) (stack ++ .paren :: below) =
      ((release leaves output stack).1 ++ earlier,
        (release leaves output stack).2 ++ .paren :: below) := by
  rw [release_append]
  fun_induction release leaves output stack with
  | case1 output op stack leave ih =>
      rw [List.cons_append, release, if_pos leave]
      exact ih
  | case2 output op stack stays => rw [List.cons_append, release, if_neg stays]
  | case3 output stack noOperator =>
      cases stack with
      | nil => rfl
      | cons pending stack =>
          cases pending with
          | paren => rfl
          | operator op => exact absurd rfl (noOperator op stack)

/-- A token that a yard takes does **the same on top** of another one. -/
theorem step_above {yard next : Yard} {t : Token} (h : step yard t = .ok next) (below : Yard) :
    step (yard.above below) t = .ok (next.above below) := by
  cases t with
  | var name => cases h; rfl
  | const value => cases h; rfl
  | openParen => cases h; rfl
  | closeParen =>
      have onTop := release_above (fun _ => true) yard.output below.output yard.stack below.stack
      simp only [step] at h
      split at h
      · next output stack released =>
          cases h
          rw [released] at onTop
          exact step_closeParen onTop
      · cases h
  | operator op =>
      cases h
      exact step_operator (release_above _ yard.output below.output yard.stack below.stack)
  | unknown text => cases h

/-- Tokens that a yard takes do the same on top of another one, whatever has come out there and
whatever waits. -/
theorem run_above {yard next : Yard} {ts : List Token} (h : run yard ts = .ok next) (below : Yard) :
    run (yard.above below) ts = .ok (next.above below) := by
  induction ts generalizing yard with
  | nil => cases h; rfl
  | cons t ts ih =>
      rw [run, List.foldlM_cons] at h
      obtain ⟨middle, first, rest⟩ := bind_eq_ok_iff.mp h
      rw [run_cons_of_eq_ok (step_above first below)]
      exact ih rest

/-- Tokens put out some tokens, and leave the stack as it was. -/
def Puts (ts output : List Token) : Prop :=
  ∀ yard, run yard ts = .ok { yard with output := output.reverse ++ yard.output }

/-- A variable puts itself out. -/
theorem puts_var (x : String) : Puts [.var x] [.var x] := fun _ => rfl

/-- Tokens in parentheses put out their reverse Polish order, whatever waits outside the
parentheses. -/
theorem puts_enclosed {ts polish : List Token} (h : toReversePolish ts = .ok polish) :
    Puts (Lexer.enclosed ts) polish := by
  intro yard
  obtain ⟨last, ran, finished⟩ := bind_eq_ok_iff.mp h
  have opened : step yard .openParen = .ok (above {} yard) := rfl
  have closed : step (last.above yard) .closeParen =
      .ok { yard with output := polish.reverse ++ yard.output } := by
    have onTop := release_above (fun _ => true) last.output yard.output last.stack yard.stack
    simp only [finish] at finished
    split at finished
    · next output released =>
        cases finished
        rw [released] at onTop
        rw [List.reverse_reverse]
        exact step_closeParen onTop
    · cases finished
  rw [Lexer.enclosed, List.cons_append, run_cons_of_eq_ok opened,
    run_append_of_eq_ok (run_above ran yard), run_cons_of_eq_ok closed]
  rfl

/-! ### The yard does not notice -/

variable {images outputs : String → List Token}

/-- A yard with other tokens in place of the variables that were put out. -/
def replace (outputs : String → List Token) (yard : Yard) : Yard :=
  { yard with output := replaceVariables (fun x => (outputs x).reverse) yard.output }

/-- What is released is no variable. -/
theorem release_replaceVariables (outputs : String → List Token) (leaves : Operator → Bool)
    (output : List Token) (stack : List Pending) :
    release leaves (replaceVariables outputs output) stack =
      (replaceVariables outputs (release leaves output stack).1,
        (release leaves output stack).2) := by
  fun_induction release leaves output stack with
  | case1 output op stack leave ih => rw [release, if_pos leave, ← ih]; rfl
  | case2 output op stack stays => rw [release, if_neg stays]
  | case3 output stack noOperator => rw [release.eq_2 _ _ _ noOperator]

/-- A token other than a variable does what it would do with the variables that were put
out. -/
theorem step_replace (yard : Yard) {t : Token} (other : ∀ x, t ≠ .var x) :
    step (yard.replace outputs) t = (step yard t).map (replace outputs) := by
  cases t with
  | var name => exact absurd rfl (other name)
  | const value => rfl
  | openParen => rfl
  | closeParen =>
      have moved := release_replaceVariables (fun x => (outputs x).reverse) (fun _ => true)
        yard.output yard.stack
      simp only [step, replace, moved]
      generalize release (fun _ => true) yard.output yard.stack = outcome
      obtain ⟨output, _ | ⟨_ | op, stack⟩⟩ := outcome <;> rfl
  | operator op =>
      have moved := release_replaceVariables (fun x => (outputs x).reverse)
        (op.precedence ≤ ·.precedence) yard.output yard.stack
      simp only [step, replace, moved]
      rfl
  | unknown text => rfl

/-- Tokens do what they would do with the variables, if what takes the place of a variable puts
something out and does nothing else. -/
theorem run_replaceVariables {ts : List Token}
    (puts : ∀ x, .var x ∈ ts → Puts (images x) (outputs x)) (yard : Yard) :
    run (yard.replace outputs) (replaceVariables images ts) =
      (run yard ts).map (replace outputs) := by
  induction ts generalizing yard with
  | nil => rfl
  | cons t ts ih =>
      have rest := ih fun x mem => puts x (List.mem_cons_of_mem t mem)
      by_cases stands : ∃ x, t = .var x
      · obtain ⟨x, rfl⟩ := stands
        have here := puts x (by simp) (yard.replace outputs)
        rw [replaceVariables_var, run_append_of_eq_ok here]
        exact rest { yard with output := .var x :: yard.output }
      · have other := not_exists.mp stands
        rw [replaceVariables_cons other, run, List.foldlM_cons, step_replace yard other, run,
          List.foldlM_cons]
        cases step yard t with
        | error e => rfl
        | ok next => exact rest next

/-- At the end the other tokens stand in the place of the variables. -/
theorem finish_replace (yard : Yard) :
    (yard.replace outputs).finish = yard.finish.map (replaceVariables outputs) := by
  have moved := release_replaceVariables (fun x => (outputs x).reverse) (fun _ => true) yard.output
    yard.stack
  simp only [finish, replace, moved]
  generalize release (fun _ => true) yard.output yard.stack = outcome
  obtain ⟨output, _ | ⟨pending, stack⟩⟩ := outcome
  · exact congrArg Except.ok (reverse_replaceVariables outputs output)
  · rfl

end Yard

/-- With tokens in place of variables that put something out and do nothing else, the reverse
Polish order has **what they put out** in the place of the variables. -/
theorem toReversePolish_replaceVariables {images outputs : String → List Token} {ts : List Token}
    (puts : ∀ x, .var x ∈ ts → Yard.Puts (images x) (outputs x)) :
    toReversePolish (replaceVariables images ts) =
      (toReversePolish ts).map (replaceVariables outputs) := by
  have ran : Yard.run {} _ = _ := Yard.run_replaceVariables puts {}
  rw [toReversePolish, ran, toReversePolish]
  cases Yard.run {} ts with
  | error e => rfl
  | ok yard => exact yard.finish_replace

/-! ### Values -/

namespace Evaluation

variable {valuation : Valuation}

/-- A token that is taken does the same above other values. -/
theorem step_append {stack next : List Bool} {t : Token} (h : step valuation stack t = .ok next)
    (below : List Bool) : step valuation (stack ++ below) t = .ok (next ++ below) := by
  cases t with
  | var name =>
      simp only [step] at h ⊢
      split at h
      · cases h; rfl
      · cases h
  | const value => cases h; rfl
  | operator op =>
      rcases op with _ | c
      · rcases stack with _ | ⟨a, stack⟩
        · cases h
        · cases h; rfl
      · rcases stack with _ | ⟨b, _ | ⟨a, stack⟩⟩
        · cases h
        · cases h
        · cases h; rfl
  | openParen => cases h
  | closeParen => cases h
  | unknown text => cases h

/-- Tokens that are taken do the same above other values. -/
theorem run_append {stack next : List Bool} {ts : List Token}
    (h : run valuation stack ts = .ok next) (below : List Bool) :
    run valuation (stack ++ below) ts = .ok (next ++ below) := by
  induction ts generalizing stack with
  | nil => cases h; rfl
  | cons t ts ih =>
      rw [run, List.foldlM_cons] at h
      obtain ⟨middle, first, rest⟩ := bind_eq_ok_iff.mp h
      rw [run, List.foldlM_cons, step_append first below]
      exact ih rest

/-- Tokens with a value put it on top of any stack. -/
theorem run_of_evaluate {ts : List Token} {value : Bool} (h : evaluate valuation ts = .ok value)
    (stack : List Bool) : run valuation stack ts = .ok (value :: stack) := by
  obtain ⟨values, ran, last⟩ := bind_eq_ok_iff.mp h
  match values, last with
  | [_], last =>
      cases last
      exact run_append ran stack

/-- Tokens with a value in place of a variable do what the variable does if it is bound to the
value. -/
theorem run_replaceVariable {x : String} {image : List Token} {value : Bool}
    (h : evaluate valuation image = .ok value) (stack : List Bool) (ts : List Token) :
    run valuation stack (replaceVariable x image ts) =
      run (Function.update valuation x (some value)) stack ts := by
  induction ts generalizing stack with
  | nil => rfl
  | cons t ts ih =>
      by_cases same : t = .var x
      · subst same
        rw [replaceVariable_var, run, List.foldlM_append]
        show run _ _ _ >>= _ = _
        rw [run_of_evaluate h, run, List.foldlM_cons, step, Function.update_self]
        exact ih (value :: stack)
      · have alike : step valuation stack t =
            step (Function.update valuation x (some value)) stack t := by
          cases t with
          | var name =>
              have other : name ≠ x := fun equal => same (congrArg Token.var equal)
              simp only [step, Function.update_of_ne other]
          | operator op => cases op <;> rfl
          | _ => rfl
        rw [replaceVariable_cons same, run, List.foldlM_cons, run, List.foldlM_cons, ← alike]
        cases step valuation stack t with
        | error e => rfl
        | ok next => exact ih next

end Evaluation

/-- With tokens in place of a variable, tokens are evaluated **as if the variable were
bound** to the value of the others. -/
theorem evaluate_replaceVariable {valuation : Valuation} {x : String} {image : List Token}
    {value : Bool} (h : evaluate valuation image = .ok value) (ts : List Token) :
    evaluate valuation (replaceVariable x image ts) =
      evaluate (Function.update valuation x (some value)) ts := by
  rw [evaluate, Evaluation.run_replaceVariable h, evaluate]

end Junctor
