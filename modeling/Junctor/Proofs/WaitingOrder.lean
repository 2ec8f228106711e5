import Junctor.Proofs.Conservation
import Junctor.Proofs.Refusals

/-!
# What Waits in the Yard

The stack of a yard never grows with the length of what is read. An operator waits only on
what binds less tightly than itself, because it has released everything else before, so that
operators that wait directly above each other bind more and more tightly up to the top. This
says nothing across an opening parenthesis, on which any operator may wait, and which keeps
the operators below it where they are until it is closed. A negation goes through the same
loop as the other operators and needs no rule of its own.

The invariant is `Yard.Ascends`, in which a stack is built up from the bottom. What is left
of a stack after something was released is what the stack was built up from at some time, so
that a closing parenthesis uncovers a stack of which the invariant held before. There are
four precedences, and so at most four operators wait between two parentheses.

## Main results

* `Yard.Ascends`: every operator binds more tightly than the one directly below it.
* `Yard.release_suffix`, `Yard.below_release`: what is left after a release.
* `Yard.Waits.step`, `Yard.Waits.run`: what one token and a whole run do to what waits.
* `Yard.Ascends.pairwise`, `Yard.Ascends.length_le`: the operators between two parentheses,
  and all of them.
* `Yard.waiting_ascends`: all of this of the yard after some tokens.
-/

namespace Junctor

/-- The token that waits. -/
def Pending.token : Pending → Token
  | paren => .openParen
  | operator op => .operator op

namespace Yard

variable {stack rest : List Pending} {op : Operator} {ops : List Operator} {level : Nat}

/-! ### Stacks that ascend -/

/-- The stack **ascends**: every operator binds more tightly than the one directly below it. -/
inductive Ascends : List Pending → Prop where
  /-- Nothing waits. -/
  | nil : Ascends []
  /-- A parenthesis may wait on anything. -/
  | paren {stack : List Pending} (below : Ascends stack) : Ascends (.paren :: stack)
  /-- An operator waits on what binds less tightly. -/
  | operator {op : Operator} {stack : List Pending} (less : Below op.precedence stack)
      (below : Ascends stack) : Ascends (.operator op :: stack)

/-- What is left of a stack that ascends, when something was taken off the top, ascends. -/
theorem Ascends.of_suffix (h : Ascends stack) (left : rest <:+ stack) : Ascends rest := by
  induction h with
  | nil => exact List.suffix_nil.mp left ▸ .nil
  | paren below ih =>
      rcases List.suffix_cons_iff.mp left with rfl | left
      · exact .paren below
      · exact ih left
  | operator less below ih =>
      rcases List.suffix_cons_iff.mp left with rfl | left
      · exact .operator less below
      · exact ih left

/-- Operators on top of a stack that ascends bind less tightly than a level, if the topmost
does. -/
theorem Ascends.lt_of_prefix (h : Ascends stack) (below : Below level stack)
    (top : ops.map .operator <+: stack) : ∀ op ∈ ops, op.precedence < level := by
  induction h generalizing level ops with
  | nil => simp [List.map_eq_nil_iff.mp (List.prefix_nil.mp top)]
  | paren => cases ops with
    | nil => simp
    | cons op ops => cases (List.cons_prefix_cons.mp top).1
  | operator less _ ih => cases ops with
    | nil => simp
    | cons op ops =>
        obtain ⟨same, next⟩ := List.cons_prefix_cons.mp top
        cases same
        exact List.forall_mem_cons.mpr
          ⟨below, fun op mem => Nat.lt_trans (ih less next op mem) below⟩

/-- Operators that wait directly above each other, the topmost first, **bind less and less
tightly**, and not only neighbours do. -/
theorem Ascends.pairwise (h : Ascends stack) (block : ops.map .operator <:+: stack) :
    ops.Pairwise fun upper lower => lower.precedence < upper.precedence := by
  obtain ⟨stack, top, left⟩ := List.infix_iff_prefix_suffix.mp block
  have h := h.of_suffix left
  clear block left
  induction ops generalizing stack with
  | nil => exact .nil
  | cons op ops ih =>
      cases h with
      | nil => cases List.prefix_nil.mp top
      | paren => cases (List.cons_prefix_cons.mp top).1
      | operator less below =>
          obtain ⟨same, next⟩ := List.cons_prefix_cons.mp top
          cases same
          exact .cons (below.lt_of_prefix less next) (ih _ next below)

/-- Whatever waits is below the level above the highest. -/
theorem below_top (stack : List Pending) : Below 5 stack := by
  cases stack with
  | nil => trivial
  | cons pending stack => cases pending with
    | paren => trivial
    | operator op => exact Nat.lt_succ_of_le op.precedence_bounds.2

/-- On a stack that ascends **at most four operators** wait above each parenthesis and below
the first, and no more than the level says above the last. -/
theorem Ascends.length_le (h : Ascends stack) (below : Below (level + 1) stack) (le : level ≤ 4) :
    (stack.filterMap Pending.token?).length ≤ 4 * stack.count .paren + level := by
  induction h generalizing level with
  | nil => exact Nat.zero_le _
  | @paren stack _ ih =>
      have whole : Below 5 stack := below_top stack
      rw [List.count_cons_self]
      have := ih whole (Nat.le_refl 4)
      show (stack.filterMap Pending.token?).length ≤ _
      omega
  | @operator op stack less _ ih =>
      have least := op.precedence_bounds.1
      obtain ⟨k, same⟩ := Nat.exists_eq_add_of_le' least
      have inside : op.precedence < level + 1 := below
      have := ih (same ▸ less) (by omega)
      rw [count_paren_operator]
      show (stack.filterMap Pending.token?).length + 1 ≤ _
      omega

/-! ### What is left after a release -/

/-- What is left after a release is **the lower part** of the stack. -/
theorem release_suffix (leaves : Operator → Bool) (output : List Token) (stack : List Pending) :
    (release leaves output stack).2 <:+ stack := by
  fun_induction release leaves output stack with
  | case1 output op stack leave ih => exact ih.trans (List.suffix_cons _ _)
  | case2 => exact List.suffix_refl _
  | case3 => exact List.suffix_refl _

/-- When everything was released that binds as tightly as a level, what is left on top
**binds less tightly**. -/
theorem below_release (level : Nat) (output : List Token) (stack : List Pending) :
    Below level (release (level ≤ ·.precedence) output stack).2 := by
  fun_induction release (level ≤ ·.precedence) output stack with
  | case1 output op stack leave ih => exact ih
  | case2 output op stack stays => exact Nat.lt_of_not_le fun le => stays (decide_eq_true le)
  | case3 output stack noOperator =>
      cases stack with
      | nil => trivial
      | cons pending stack => cases pending with
        | paren => trivial
        | operator op => exact absurd rfl (noOperator op stack)

/-! ### What waits during a run -/

/-- What **waits** after some tokens: parentheses and operators among these, in their order,
on a stack that ascends. -/
structure Waits (read : List Token) (stack : List Pending) : Prop where
  /-- What waits was read, the bottom first. -/
  listed : (stack.reverse.map Pending.token).Sublist read
  /-- Every operator binds more tightly than the one directly below it. -/
  ascends : Ascends stack

namespace Waits

variable {read ts : List Token} {yard next : Yard} {t : Token}

/-- Another token may be read without a trace among what waits. -/
theorem skip (h : Waits read stack) (t : Token) : Waits (read ++ [t]) stack :=
  ⟨h.listed.trans (List.sublist_append_left _ _), h.ascends⟩

/-- What is left of the stack goes on waiting. -/
theorem of_suffix (h : Waits read stack) (left : rest <:+ stack) : Waits read rest where
  listed := ((List.reverse_prefix.mpr left).map Pending.token).sublist.trans h.listed
  ascends := h.ascends.of_suffix left

/-- A token that waits goes on top of the others. -/
theorem push (h : Waits read stack) (pending : Pending) (ascends : Ascends (pending :: stack)) :
    Waits (read ++ [pending.token]) (pending :: stack) where
  listed := by
    rw [List.reverse_cons, List.map_append, List.map_singleton]
    exact h.listed.append (List.Sublist.refl _)
  ascends := ascends

/-- **One token** that is taken keeps the order in which operators wait. -/
theorem step (h : Waits read yard.stack) (taken : yard.step t = .ok next) :
    Waits (read ++ [t]) next.stack := by
  cases t with
  | var name => cases taken; exact h.skip _
  | const value => cases taken; exact h.skip _
  | openParen => cases taken; exact h.push .paren (.paren h.ascends)
  | closeParen =>
      have left := release_suffix (fun _ => true) yard.output yard.stack
      simp only [Yard.step] at taken
      split at taken
      · next rest stack all =>
          cases taken
          rw [all] at left
          exact (h.of_suffix ((List.suffix_cons _ _).trans left)).skip _
      · cases taken
  | operator op =>
      cases taken
      have left := release_suffix (op.precedence ≤ ·.precedence) yard.output yard.stack
      have kept := h.of_suffix left
      exact kept.push (.operator op) (.operator (below_release _ _ _) kept.ascends)
  | unknown text => cases taken

/-- A whole **run** keeps the order in which operators wait, by induction on the tokens. -/
theorem run (h : Waits read yard.stack) (ran : yard.run ts = .ok next) :
    Waits (read ++ ts) next.stack := by
  induction ts generalizing yard read with
  | nil => cases ran; exact (List.append_nil read).symm ▸ h
  | cons t ts ih =>
      rw [Yard.run, List.foldlM_cons] at ran
      obtain ⟨middle, first, others⟩ := bind_eq_ok_iff.mp ran
      rw [← List.singleton_append, ← List.append_assoc]
      exact ih (h.step first) others

end Waits

/-! ### The main result -/

/-- Whatever tokens a yard has taken, **what waits is in order**. These are opening
parentheses and operators among the tokens, in the order in which they were read, and as many
parentheses as were opened and not closed. Operators that wait directly above each other bind
strictly more tightly from the bottom to the top, so that with `d` open parentheses no more
than `4 * (d + 1)` operators wait, however many tokens were taken. -/
theorem waiting_ascends {ts : List Token} {yard : Yard} (ran : run {} ts = .ok yard) :
    (yard.stack.reverse.map Pending.token).Sublist ts ∧
      yard.stack.count .paren + ts.count .closeParen = ts.count .openParen ∧
      (∀ ops : List Operator, ops.map .operator <:+: yard.stack →
        ops.Pairwise fun upper lower => lower.precedence < upper.precedence) ∧
      (yard.stack.filterMap Pending.token?).length ≤ 4 * (yard.stack.count .paren + 1) := by
  have start : Waits [] (Yard.stack {}) := ⟨.slnil, .nil⟩
  have waits : Waits ts yard.stack := start.run ran
  have opened := count_paren_of_run ran
  have bound := waits.ascends.length_le (below_top yard.stack) (Nat.le_refl 4)
  rw [List.count_nil, Nat.zero_add] at opened
  exact ⟨waits.listed, opened, fun ops block => waits.ascends.pairwise block, bound⟩

/-- After `a → b ∨ c ∧ ¬ ( a ↔ b ^ c ∧ ¬` one parenthesis is open, and as many operators wait
as can. -/
theorem waiting_ascends_full :
    ∃ yard, run {} [.var "a", .operator (.binary .implies), .var "b", .operator (.binary .or),
        .var "c", .operator (.binary .and), .operator .negation, .openParen, .var "a",
        .operator (.binary .iff), .var "b", .operator (.binary .xor), .var "c",
        .operator (.binary .and), .operator .negation] = .ok yard ∧
      yard.stack.count .paren = 1 ∧ (yard.stack.filterMap Pending.token?).length = 4 * (1 + 1) ∧
      (yard.stack.filterMap Pending.token?).length ≤ 4 * (yard.stack.count .paren + 1) ∧
      [Operator.negation, .binary .and, .binary .xor, .binary .iff].Pairwise
        fun upper lower => lower.precedence < upper.precedence := by
  obtain ⟨-, -, between, bound⟩ := @waiting_ascends
    [.var "a", .operator (.binary .implies), .var "b", .operator (.binary .or), .var "c",
      .operator (.binary .and), .operator .negation, .openParen, .var "a", .operator (.binary .iff),
      .var "b", .operator (.binary .xor), .var "c", .operator (.binary .and),
      .operator .negation] _ rfl
  exact ⟨_, rfl, rfl, rfl, bound, between _ ⟨[], _, rfl⟩⟩

end Yard

end Junctor
