import Junctor.Grammar
import Junctor.Proofs.StackMachines

/-!
# The Yard Reads the Grammar

The yard never sees the grammar: it has one flat stack on which operators of all levels wait
beside the opening parentheses. What ties the two together is the invariant `Yard.Yields`.
Tokens that are derived at a level leave what was on the stack before alone, as long as the
operator on top of it binds less tightly than the level; they put some tokens out early, and
the operators that they leave waiting bind at least as tightly as the level. Early and
waiting tokens together are the postorder of the formula that is derived.

A negation goes through the same loop as the other operators, so that a second negation
releases the first. `Yard.Negated` is the invariant of tokens that follow a negation.

## Main results

* `Yard.Yields.paren`, `Yard.Yields.binary`, `Yard.Yields.negation`: the invariant for each
  rule of the grammar.
* `Yard.Yields.toReversePolish_eq`: the order of tokens that are derived at the lowest level.
* `Derives.yields`: the invariant holds of the small grammar, with the postorder.
* `Derives.polish_correct`: tokens of the small grammar are read as the formula that is
  derived.
-/

namespace Junctor

namespace Yard

/-! ### Releasing -/

/-- Does the operator on top of the stack, if there is one, bind less tightly than the
level? -/
def Below (level : Nat) : List Pending → Prop
  | .operator op :: _ => op.precedence < level
  | _ => True

/-- What is below a level is below a higher one. -/
theorem Below.mono {level higher : Nat} {stack : List Pending} (below : Below level stack)
    (le : level ≤ higher) : Below higher stack := by
  match stack, below with
  | [], _ => exact trivial
  | .paren :: _, _ => exact trivial
  | .operator op :: _, below => exact Nat.lt_of_lt_of_le below le

/-- Nothing is released from a stack below the level of everything that leaves. -/
theorem release_of_below (leaves : Operator → Bool) {level : Nat} {stack : List Pending}
    (below : Below level stack) (tight : ∀ op, leaves op = true → level ≤ op.precedence)
    (output : List Token) : release leaves output stack = (output, stack) := by
  match stack, below with
  | [], _ => rfl
  | .paren :: _, _ => rfl
  | .operator op :: _, below =>
      have stays : ¬ leaves op = true := by
        intro h
        have := tight op h
        have : op.precedence < level := below
        omega
      rw [release, if_neg stays]

/-- Operators that all leave are released, the top first. -/
theorem release_waiting {leaves : Operator → Bool} {waiting : List Operator}
    (all : ∀ op ∈ waiting, leaves op = true) (output : List Token) (stack : List Pending) :
    release leaves output (waiting.map .operator ++ stack) =
      release leaves ((waiting.map .operator).reverse ++ output) stack := by
  induction waiting generalizing output with
  | nil => rfl
  | cons op waiting ih =>
      rw [List.map_cons, List.cons_append, release, if_pos (all op (by simp)),
        ih fun op mem => all op (by simp [mem])]
      simp only [List.map_cons, List.reverse_cons, List.append_assoc, List.singleton_append]

/-- A run goes on from where it stopped. -/
theorem run_append_of_eq_ok {yard next : Yard} {ts : List Token} (h : run yard ts = .ok next)
    (us : List Token) : run yard (ts ++ us) = run next us := by
  rw [run, List.foldlM_append]
  exact congrArg (· >>= (run · us)) h

/-- A run goes on after its first token. -/
theorem run_cons_of_eq_ok {yard next : Yard} {t : Token} (h : step yard t = .ok next)
    (ts : List Token) : run yard (t :: ts) = run next ts := by
  rw [run, List.foldlM_cons, h]
  rfl

/-- What a closing parenthesis does where one is open. -/
theorem step_closeParen {output rest : List Token} {stack waiting : List Pending}
    (h : release (fun _ => true) output stack = (rest, .paren :: waiting)) :
    step ⟨output, stack⟩ .closeParen = .ok ⟨rest, waiting⟩ := by
  simp only [step, h]

/-- What an operator does: some operators are released, and it waits on top of the others. -/
theorem step_operator {op : Operator} {output rest : List Token} {stack waiting : List Pending}
    (h : release (op.precedence ≤ ·.precedence) output stack = (rest, waiting)) :
    step ⟨output, stack⟩ (.operator op) = .ok ⟨rest, .operator op :: waiting⟩ := by
  simp only [step, h]

/-- Every operator is above the lowest level. -/
theorem leaves_always_iff (op : Operator) : true = true ↔ 1 ≤ op.precedence :=
  ⟨fun _ => op.precedence_bounds.1, fun _ => rfl⟩

/-! ### What tokens yield -/

/-- The **yield** of tokens at a level: on a stack below the level they put out `early`, and
on top of the stack they leave `waiting`, none of which binds less tightly than the level. -/
structure Yields (level : Nat) (ts early : List Token) (waiting : List Operator) : Prop where
  /-- What a run does. -/
  run_eq : ∀ output stack, Below level stack →
    run ⟨output, stack⟩ ts = .ok ⟨early.reverse ++ output, waiting.map .operator ++ stack⟩
  /-- How tightly the operators bind that are left waiting. -/
  tight : ∀ op ∈ waiting, level ≤ op.precedence

/-- The tokens of a yield in reverse Polish order: first those that come out at once, and
then those that wait. -/
def polish (early : List Token) (waiting : List Operator) : List Token :=
  early ++ waiting.map .operator

namespace Yields

variable {level : Nat} {ts us early late : List Token} {waiting more : List Operator}

/-- An operand is put out at once. -/
theorem operand {t : Token} (h : t.isOperand = true) : Yields 5 [t] [t] [] where
  run_eq output stack _ := by
    cases t with
    | var name => rfl
    | const value => rfl
    | _ => cases h
  tight _ mem := by cases mem

/-- On the highest level nothing waits. -/
theorem waiting_eq_nil (h : Yields 5 ts early waiting) : waiting = [] := by
  match waiting, h.tight with
  | [], _ => rfl
  | op :: _, tight =>
      have := tight op (by simp)
      have := op.precedence_bounds
      omega

/-- A yield counts on the level below. -/
theorem lower (h : Yields (level + 1) ts early waiting) : Yields level ts early waiting where
  run_eq output stack below := h.run_eq output stack (below.mono (Nat.le_succ level))
  tight op mem := Nat.le_of_succ_le (h.tight op mem)

/-- When everything leaves that binds as tightly as the level, the whole yield is put out, and
what was on the stack before stays. -/
theorem released (h : Yields level ts early waiting) (leaves : Operator → Bool)
    (all : ∀ op, leaves op = true ↔ level ≤ op.precedence) (output : List Token)
    {stack : List Pending} (below : Below level stack) :
    release leaves (early.reverse ++ output) (waiting.map .operator ++ stack) =
      ((polish early waiting).reverse ++ output, stack) := by
  rw [release_waiting fun op mem => (all op).mpr (h.tight op mem),
    release_of_below leaves below fun op => (all op).mp, polish, List.reverse_append,
    List.append_assoc]

/-- Parentheses put the yield of what they enclose out **as a whole**. -/
theorem paren (h : Yields 1 ts early waiting) :
    Yields 5 (.openParen :: ts ++ [.closeParen]) (polish early waiting) [] where
  run_eq output stack _ := by
    have opened : step ⟨output, stack⟩ .openParen = .ok ⟨output, .paren :: stack⟩ := rfl
    have onTop : Below 1 (.paren :: stack) := trivial
    have inside := h.run_eq output (.paren :: stack) onTop
    have closed := step_closeParen (h.released _ leaves_always_iff output onTop)
    rw [List.cons_append, run_cons_of_eq_ok opened, run_append_of_eq_ok inside,
      run_cons_of_eq_ok closed]
    rfl
  tight _ mem := by cases mem

/-- A connective puts the yield of its left side out and **waits below** that of its right
side. -/
theorem binary {c : Connective} (joins : Joins level c) (left : Yields level ts early waiting)
    (right : Yields (level + 1) us late more) :
    Yields level (ts ++ .operator (.binary c) :: us) (polish early waiting ++ late)
      (more ++ [.binary c]) where
  run_eq output stack below := by
    have same : (Operator.binary c).precedence = level := joins.precedence_eq
    have leaves : ∀ op : Operator,
        decide ((Operator.binary c).precedence ≤ op.precedence) = true ↔ level ≤ op.precedence := by
      intro op
      rw [decide_eq_true_iff, same]
    have onTop : Below (level + 1) (.operator (.binary c) :: stack) := by
      rw [Below, same]
      exact Nat.lt_succ_self level
    have joined := step_operator (left.released _ leaves output below)
    rw [run_append_of_eq_ok (left.run_eq output stack below), run_cons_of_eq_ok joined,
      right.run_eq _ _ onTop]
    simp only [List.reverse_append, List.append_assoc, List.map_append, List.map_cons, List.map_nil,
      List.singleton_append]
  tight op mem := by
    have same : (Operator.binary c).precedence = level := joins.precedence_eq
    rcases List.mem_append.mp mem with mem | mem
    · have := right.tight op mem
      omega
    · rw [List.mem_singleton.mp mem]
      omega

/-- The tokens of the lowest level are put in the order of their yield, as nothing is left to
wait for. -/
theorem toReversePolish_eq (h : Yields 1 ts early waiting) :
    toReversePolish ts = .ok (polish early waiting) := by
  have empty : Below 1 [] := trivial
  have ran : run {} ts = _ := h.run_eq [] [] empty
  have done := h.released _ leaves_always_iff [] empty
  rw [toReversePolish, ran]
  change finish _ = _
  rw [finish, done, List.append_nil]
  exact congrArg Except.ok (List.reverse_reverse _)

end Yields

/-! ### After a negation -/

/-- What tokens put out **after a negation**, which goes on waiting or has another one in its
place. -/
def Negated (ts early : List Token) : Prop :=
  ∀ output stack, Below 4 stack →
    run ⟨output, .operator .negation :: stack⟩ ts =
      .ok ⟨early.reverse ++ output, .operator .negation :: stack⟩

/-- A negation releases nothing from a stack below its own level. -/
theorem release_negation {stack : List Pending} (below : Below 4 stack) (output : List Token) :
    release (Operator.negation.precedence ≤ ·.precedence) output stack = (output, stack) :=
  release_of_below _ below (fun _ h => of_decide_eq_true h) output

/-- After a negation an atom is put out as it would be without. -/
theorem Yields.negated {ts early : List Token} (h : Yields 5 ts early []) : Negated ts early :=
  fun output stack _ => h.run_eq output (.operator .negation :: stack) (by decide : 4 < 5)

/-- After a negation another one releases the first in front of what follows. -/
theorem Negated.again {ts early : List Token} (h : Negated ts early) :
    Negated (.operator .negation :: ts) (.operator .negation :: early) := by
  intro output stack below
  have first : release (Operator.negation.precedence ≤ ·.precedence) output
      (.operator .negation :: stack) = (.operator .negation :: output, stack) := by
    rw [release, if_pos (by decide), release_negation below]
  rw [run_cons_of_eq_ok (step_operator first), h _ _ below, List.reverse_cons, List.append_assoc,
    List.singleton_append]

/-- A negation waits for what follows it, and comes out behind it, before anything else
does. -/
theorem Negated.yields {ts early : List Token} (h : Negated ts early) :
    Yields 4 (.operator .negation :: ts) early [.negation] where
  run_eq output stack below := by
    rw [run_cons_of_eq_ok (step_operator (release_negation below output))]
    exact h output stack below
  tight op mem := by
    rw [List.mem_singleton.mp mem]
    decide

end Yard

/-! ### The small grammar -/

/-- Tokens of the small grammar yield **the postorder** of the formula that is derived, by
induction on the derivation. -/
theorem Derives.yields {level : Nat} {ts : List Token} {f : Formula}
    (d : Derives false level ts f) :
    ∃ early waiting, Yard.Yields level ts early waiting ∧
      Yard.polish early waiting = f.postorder := by
  induction d with
  | var name => exact ⟨_, _, .operand rfl, rfl⟩
  | const value => exact ⟨_, _, .operand rfl, rfl⟩
  | paren _ ih =>
      obtain ⟨early, waiting, yields, same⟩ := ih
      exact ⟨_, [], yields.paren, (List.append_nil _).trans same⟩
  | not _ ih =>
      obtain ⟨early, waiting, yields, same⟩ := ih
      obtain rfl := yields.waiting_eq_nil
      refine ⟨early, [.negation], yields.negated.yields, ?_⟩
      rw [Formula.postorder, ← same]
      simp only [Yard.polish, List.map_nil, List.append_nil, List.map_cons]
  | notAgain large => cases large
  | binary joins _ _ ihLeft ihRight =>
      obtain ⟨early, waiting, left, sameLeft⟩ := ihLeft
      obtain ⟨late, more, right, sameRight⟩ := ihRight
      refine ⟨_, _, left.binary joins right, ?_⟩
      rw [Formula.postorder, ← sameLeft, ← sameRight]
      simp only [Yard.polish, List.map_append, List.map_cons, List.map_nil, List.append_assoc]
  | lower _ _ _ ih =>
      obtain ⟨early, waiting, yields, same⟩ := ih
      exact ⟨early, waiting, yields.lower, same⟩

/-- Tokens of the small grammar are put in the order of the postorder of the formula that is
derived. -/
theorem Derives.toReversePolish_eq_postorder {ts : List Token} {f : Formula}
    (d : Derives false 1 ts f) : toReversePolish ts = .ok f.postorder := by
  obtain ⟨early, waiting, yields, same⟩ := d.yields
  rw [yields.toReversePolish_eq, same]

/-- Tokens of the small grammar **are read as the formula** that is derived: their reverse
Polish order is its postorder, which passes the check, builds it again, and is evaluated to
the truth value of what it states wherever its variables have values. -/
theorem Derives.polish_correct {ts : List Token} {f : Formula} (d : Derives false 1 ts f) :
    toReversePolish ts = .ok f.postorder ∧ checkDepth f.postorder = .ok () ∧
      Formula.ofReversePolish f.postorder = .ok f ∧
      ∀ valuation : Valuation, (∀ x ∈ f.names, (valuation x).isSome = true) →
        ∃ value, evaluate valuation f.postorder = .ok value ∧
          (value = true ↔ f.Holds fun x => valuation x = some true) := by
  obtain ⟨early, waiting, yields, same⟩ := d.yields
  refine ⟨same ▸ yields.toReversePolish_eq, checkDepth_eq_ok_iff.mpr ⟨f, rfl⟩,
    Formula.ofReversePolish_eq_ok_iff.mpr rfl, fun valuation bound => ?_⟩
  have total : ∀ x ∈ f.names, valuation x = some ((valuation x).getD false) := by
    intro x mem
    obtain ⟨b, hb⟩ := Option.isSome_iff_exists.mp (bound x mem)
    rw [hb, Option.getD_some]
  refine ⟨_, evaluate_postorder fun x mem => total x (Formula.mem_names_iff.mpr mem), ?_⟩
  rw [Formula.eval_eq_true_iff]
  refine Formula.holds_congr fun x mem => ?_
  rw [total x mem, Option.getD_some, Option.some.injEq]

/-- The tokens of `¬(a ∨ 1) → b ∧ c`, which need every rule of the small grammar. -/
theorem Derives.polish_correct_implication :
    ∃ ts f, ts = [.operator .negation, .openParen, .var "a", .operator (.binary .or), .const true,
        .closeParen, .operator (.binary .implies), .var "b", .operator (.binary .and), .var "c"] ∧
      Derives false 1 ts f ∧ toReversePolish ts = .ok f.postorder ∧
      checkDepth f.postorder = .ok () ∧ Formula.ofReversePolish f.postorder = .ok f ∧
      ∃ value, evaluate (fun _ => some true) f.postorder = .ok value ∧
        (value = true ↔ f.Holds fun _ => some true = some true) := by
  have a : Derives false 2 [.var "a"] _ := (Derives.var "a").lower_le (by omega) (by omega)
  have one : Derives false 3 [.const true] _ := (Derives.const true).lower_le (by omega) (by omega)
  have b : Derives false 3 [.var "b"] _ := (Derives.var "b").lower_le (by omega) (by omega)
  have c : Derives false 4 [.var "c"] _ := (Derives.var "c").unsigned
  have right := (b.binary .and c).lower_le (by omega : 1 ≤ 2) (by omega)
  have d := (a.binary .or one).lowest.paren.not.lowest.binary .implies right
  obtain ⟨order, depth, built, value⟩ := Derives.polish_correct d
  exact ⟨_, _, rfl, d, order, depth, built, value _ fun _ _ => rfl⟩

end Junctor
