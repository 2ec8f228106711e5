import Junctor.Proofs.EntryPoints
import Junctor.Proofs.WaitingOrder

/-!
# Where Scopes End

Whether reordered tokens make sense is decided by a count of values, when the places are lost
in which the tokens stood. But the answer can be read off these places. An operator waits in
the yard until its *scope* ends: at the first later token on its own level of parentheses
that is an operator and binds no more tightly, or at the parenthesis that closes the level.
So what has come out after some tokens are their operands and the operators whose scope has
ended, and nothing else; `Yard.due` is what will have come out at the end of a run, and no
step changes it.

The values on the stack are the operands less the connectives that have come out, and an
operator is in order if it leaves a value behind. One token may end many scopes. The
operators that come out then take values away and add none, so that the last of them decides
about all, and the count is right throughout if it is right after every token.

## Main results

* `Scope.endsWithin`, `Scope.ended`: where scopes end, and the operators whose scope has ended.
* `Yard.due_of_step`, `Yard.output_perm`: what has come out after some tokens.
* `Depth.run_reverse_eq_ok_iff`: the count of values in terms of what has come out.
* `Yard.sound_of_run`: after every token of a run a value is left.
* `checkDepth_reordered_iff`: which tokens pass the check after the reordering.
-/

namespace Junctor

/-- Is the token a connective, which joins two values to one? -/
def Token.isConnective : Token → Bool
  | operator (.binary _) => true
  | _ => false

/-- A connective is an operator. -/
theorem Token.isOperator_of_isConnective {t : Token} (connective : t.isConnective = true) :
    t.isOperator = true := by
  cases t with
  | operator op => rfl
  | _ => cases connective

/-- An operator is no operand. -/
theorem Token.isOperand_of_isOperator {t : Token} (operator : t.isOperator = true) :
    t.isOperand = false := by
  cases t with
  | operator op => rfl
  | _ => cases operator

/-- An operator is no parenthesis. -/
theorem Token.isParen_of_isOperator {t : Token} (operator : t.isOperator = true) :
    t.isParen = false := by
  cases t with
  | operator op => rfl
  | _ => cases operator

/-- An operand is no operator. -/
theorem Token.isOperator_of_isOperand {t : Token} (operand : t.isOperand = true) :
    t.isOperator = false :=
  Bool.eq_false_iff.mpr fun operator =>
    Bool.eq_false_iff.mp (isOperand_of_isOperator operator) operand

/-- An operand is no connective. -/
theorem Token.isConnective_of_isOperand {t : Token} (operand : t.isOperand = true) :
    t.isConnective = false :=
  Bool.eq_false_iff.mpr fun connective =>
    Bool.eq_false_iff.mp (isOperator_of_isOperand operand) (isOperator_of_isConnective connective)

/-! ### Scopes -/

namespace Scope

/-- Does the **scope** of an operator end within the tokens that follow, where `level` is its
precedence, and `depth` parentheses have been opened since it? -/
def endsWithin (level depth : Nat) : List Token → Bool
  | [] => false
  | .openParen :: ts => endsWithin level (depth + 1) ts
  | .closeParen :: ts => depth == 0 || endsWithin level (depth - 1) ts
  | .operator op :: ts => (depth == 0 && op.precedence ≤ level) || endsWithin level depth ts
  | _ :: ts => endsWithin level depth ts

/-- The operators among some tokens whose scope **has ended** at the end of these. -/
def ended : List Token → List Token
  | [] => []
  | .operator op :: ts =>
    if endsWithin op.precedence 0 ts then .operator op :: ended ts else ended ts
  | _ :: ts => ended ts

/-- Only operators have scopes that end. -/
theorem isOperator_of_mem_ended {ts : List Token} : ∀ t ∈ ended ts, t.isOperator = true := by
  induction ts with
  | nil => exact nofun
  | cons u ts ih =>
      cases u with
      | operator op =>
          rw [ended]
          split
          · exact List.forall_mem_cons.mpr ⟨rfl, ih⟩
          · exact ih
      | _ => exact ih

end Scope

namespace Yard

/-! ### What comes out -/

/-- The operators of a stack whose scope ends within some tokens, where `depth` parentheses
are on top of it. -/
def leaving (ts : List Token) : Nat → List Pending → List Token
  | _, [] => []
  | depth, .paren :: stack => leaving ts (depth + 1) stack
  | depth, .operator op :: stack =>
    if Scope.endsWithin op.precedence depth ts then .operator op :: leaving ts depth stack
    else leaving ts depth stack

/-- What **will have come out** of a yard after some more tokens: what is out already, the
operators that wait and whose scope ends there, and of the tokens the operators whose scope
has ended and the operands. -/
def due (ts : List Token) (yard : Yard) : List Token :=
  yard.output ++ leaving ts 0 yard.stack ++ Scope.ended ts ++ ts.filter Token.isOperand

variable {ts us : List Token} {t : Token} {yard next : Yard} {stack : List Pending}

/-- No scope ends where nothing follows. -/
theorem leaving_nil (depth : Nat) (stack : List Pending) : leaving [] depth stack = [] := by
  induction stack generalizing depth with
  | nil => rfl
  | cons pending stack ih =>
      cases pending with
      | paren => exact ih (depth + 1)
      | operator op => exact ih depth

/-- The same operators leave a stack if all scopes end alike, on each level of parentheses. -/
theorem leaving_congr {depth depth' : Nat}
    (same : ∀ level k,
      Scope.endsWithin level (depth + k) ts = Scope.endsWithin level (depth' + k) us)
    (stack : List Pending) : leaving ts depth stack = leaving us depth' stack := by
  induction stack generalizing depth depth' with
  | nil => rfl
  | cons pending stack ih =>
      cases pending with
      | paren =>
          refine ih fun level k => ?_
          rw [Nat.add_assoc, Nat.add_assoc]
          exact same level (1 + k)
      | operator op =>
          have here : Scope.endsWithin op.precedence depth ts =
              Scope.endsWithin op.precedence depth' us := same op.precedence 0
          rw [leaving, leaving, ih same, here]

/-- An opening parenthesis is one more on top of the stack. -/
theorem leaving_openParen (ts : List Token) (stack : List Pending) :
    leaving (.openParen :: ts) 0 stack = leaving ts 1 stack := by
  refine leaving_congr (fun level k => ?_) stack
  rw [Nat.add_comm 1 k, Scope.endsWithin, Nat.zero_add]

/-- A closing parenthesis is one less on top of the stack. -/
theorem leaving_closeParen (ts : List Token) (stack : List Pending) :
    leaving (.closeParen :: ts) 1 stack = leaving ts 0 stack := by
  refine leaving_congr (fun level k => ?_) stack
  have inside : (1 + k == 0) = false := beq_eq_false_iff_ne.mpr (by omega)
  rw [Scope.endsWithin, inside, Bool.false_or]
  exact congrArg (Scope.endsWithin level · ts) (by omega)

/-- An operator ends no scope on a stack below its own level. -/
theorem leaving_operator {op : Operator} (ascends : Ascends stack)
    (below : Below op.precedence stack) (ts : List Token) :
    leaving (.operator op :: ts) 0 stack = leaving ts 0 stack := by
  induction ascends with
  | nil => rfl
  | @paren stack _ _ =>
      refine leaving_congr (fun level k => ?_) stack
      have inside : (1 + k == 0) = false := beq_eq_false_iff_ne.mpr (by omega)
      rw [Scope.endsWithin, inside, Bool.false_and, Bool.false_or]
  | @operator top stack less _ ih =>
      have looser : top.precedence < op.precedence := below
      have goesOn : Scope.endsWithin top.precedence 0 (.operator op :: ts) =
          Scope.endsWithin top.precedence 0 ts := by
        rw [Scope.endsWithin, decide_eq_false (Nat.not_le.mpr looser), Bool.and_false,
          Bool.false_or]
      rw [leaving, leaving, goesOn, ih (less.mono (Nat.le_of_lt looser))]

/-- Releasing puts out operators whose scope ends. -/
theorem release_leaving {leaves : Operator → Bool}
    (ends : ∀ op, leaves op = true → Scope.endsWithin op.precedence 0 ts = true)
    (output : List Token) (stack : List Pending) :
    ((release leaves output stack).1 ++ leaving ts 0 (release leaves output stack).2).Perm
      (output ++ leaving ts 0 stack) := by
  fun_induction release leaves output stack with
  | case1 output op stack leave ih =>
      rw [leaving, if_pos (ends op leave)]
      exact ih.trans List.perm_middle.symm
  | case2 => exact .refl _
  | case3 => exact .refl _

/-- **One token** does not change what will have come out. -/
theorem due_of_step (ascends : Ascends yard.stack) (taken : step yard t = .ok next)
    (ts : List Token) : (due ts next).Perm (due (t :: ts) yard) := by
  obtain ⟨output, stack⟩ := yard
  have operand (operand : t.isOperand = true)
      (same : ∀ level depth,
        Scope.endsWithin level depth (t :: ts) = Scope.endsWithin level depth ts)
      (rest : Scope.ended (t :: ts) = Scope.ended ts) :
      (due ts ⟨t :: output, stack⟩).Perm (due (t :: ts) ⟨output, stack⟩) := by
    have left : leaving (t :: ts) 0 stack = leaving ts 0 stack :=
      leaving_congr (fun level k => same level (0 + k)) stack
    simp only [due, left, rest, List.filter_cons_of_pos operand]
    exact List.perm_middle.symm
  cases t with
  | var name => cases taken; exact operand rfl (fun _ _ => rfl) rfl
  | const value => cases taken; exact operand rfl (fun _ _ => rfl) rfl
  | openParen =>
      cases taken
      exact .of_eq (by rw [due, due, leaving_openParen]; rfl)
  | closeParen =>
      have out := @release_leaving (.closeParen :: ts) (fun _ => true) (fun _ _ => rfl) output stack
      simp only [step] at taken
      split at taken
      · next rest below all =>
          cases taken
          rw [all, leaving, leaving_closeParen] at out
          exact (out.append_right _).append_right _
      · cases taken
  | operator op =>
      cases taken
      have out := @release_leaving (.operator op :: ts) (op.precedence ≤ ·.precedence)
        (fun _ leave => by rw [Scope.endsWithin, leave]; rfl) output stack
      have left := ascends.of_suffix (release_suffix (op.precedence ≤ ·.precedence) output stack)
      rw [leaving_operator left (below_release _ _ _)] at out
      generalize release (op.precedence ≤ ·.precedence) output stack = released at out
      have operands : (Token.operator op :: ts).filter Token.isOperand =
          ts.filter Token.isOperand :=
        rfl
      simp only [due, leaving, Scope.ended, operands]
      refine .append_right _ ?_
      split
      · exact ((List.perm_middle.trans (out.cons _)).append_right _).trans List.perm_middle.symm
      · exact out.append_right _
  | unknown text => cases taken

/-- A whole run does not change what will have come out. -/
theorem due_of_run (ascends : Ascends yard.stack) (ran : run yard ts = .ok next) :
    next.output.Perm (due ts yard) := by
  induction ts generalizing yard with
  | nil =>
      cases ran
      simp [due, leaving_nil, Scope.ended]
  | cons t ts ih =>
      rw [run, List.foldlM_cons] at ran
      obtain ⟨middle, first, others⟩ := bind_eq_ok_iff.mp ran
      have after : Ascends middle.stack := by
        have waits : Waits (yard.stack.reverse.map Pending.token) yard.stack :=
          ⟨List.Sublist.refl _, ascends⟩
        exact (waits.step first).ascends
      exact (ih after others).trans (due_of_step ascends first ts)

/-- After some tokens **the operators whose scope has ended** have come out, and the
operands. -/
theorem output_perm (ran : run {} ts = .ok yard) :
    yard.output.Perm (Scope.ended ts ++ ts.filter Token.isOperand) :=
  due_of_run .nil ran

end Yard

/-! ### The values that are left -/

/-- Once an operator has come out, a value is left: there are more operands among the tokens
that have come out than connectives. -/
def LeavesValue (out : List Token) : Prop :=
  (∃ t ∈ out, t.isOperator = true) → out.countP Token.isConnective < out.countP Token.isOperand

/-- The tokens that have come out, the latest first, are sound: a value was left at all
times. -/
def Sound (out : List Token) : Prop := ∀ early, early <:+ out → LeavesValue early

section Sound

variable {out late : List Token} {t : Token}

/-- Before anything comes out all is well. -/
theorem sound_nil : Sound [] := by
  intro early suffix
  obtain rfl := List.suffix_nil.mp suffix
  exact fun ⟨_, mem, _⟩ => absurd mem List.not_mem_nil

/-- What has come out is sound if it was before, and a value is left now. -/
theorem sound_cons_iff : Sound (t :: out) ↔ Sound out ∧ LeavesValue (t :: out) := by
  simp only [Sound, List.suffix_cons_iff, forall_eq_or_imp, and_comm]

/-- An operand leaves a value where one was left, or nothing was taken. -/
theorem LeavesValue.operand (h : LeavesValue out) (operand : t.isOperand = true) :
    LeavesValue (t :: out) := by
  rintro ⟨u, mem, operator⟩
  rcases List.mem_cons.mp mem with rfl | mem
  · rw [Token.isOperator_of_isOperand operand] at operator
    cases operator
  · have left := h ⟨u, mem, operator⟩
    rw [List.countP_cons_of_neg (Bool.eq_false_iff.mp (Token.isConnective_of_isOperand operand)),
      List.countP_cons_of_pos operand]
    omega

/-- After an operator a value is left if there are more operands than connectives. -/
theorem leavesValue_cons_iff (operator : t.isOperator = true) :
    LeavesValue (t :: out) ↔
      (t :: out).countP Token.isConnective < (t :: out).countP Token.isOperand :=
  ⟨fun left => left ⟨t, List.mem_cons_self, operator⟩, fun less _ => less⟩

/-- A value that is left after an operator was left before it. -/
theorem LeavesValue.of_cons (operator : t.isOperator = true) (h : LeavesValue (t :: out)) :
    LeavesValue out := by
  intro _
  have left := (leavesValue_cons_iff operator).mp h
  have noOperand := Bool.eq_false_iff.mp (Token.isOperand_of_isOperator operator)
  have more : out.countP Token.isConnective ≤ (t :: out).countP Token.isConnective :=
    (List.sublist_cons_self t out).countP_le
  rw [List.countP_cons_of_neg noOperand] at left
  omega

/-- Where a value is left, there are no more connectives than operands. -/
theorem LeavesValue.countP_le (h : LeavesValue out) :
    out.countP Token.isConnective ≤ out.countP Token.isOperand := by
  by_cases taken : ∃ t ∈ out, t.isOperator = true
  · exact Nat.le_of_lt (h taken)
  · have noConnective : out.countP Token.isConnective = 0 :=
      List.countP_eq_zero.mpr fun t mem connective =>
        taken ⟨t, mem, Token.isOperator_of_isConnective connective⟩
    omega

/-- When operators come out, it is enough that a value is left after the last of them. -/
theorem sound_append_iff (operators : ∀ t ∈ late, t.isOperator = true) :
    Sound (late ++ out) ↔ Sound out ∧ LeavesValue (late ++ out) := by
  induction late with
  | nil => exact ⟨fun sound => ⟨sound, sound out (List.suffix_refl out)⟩, And.left⟩
  | cons t late ih =>
      have operator := operators t List.mem_cons_self
      rw [List.cons_append, sound_cons_iff,
        ih fun t mem => operators t (List.mem_cons_of_mem _ mem)]
      exact ⟨fun ⟨⟨sound, _⟩, left⟩ => ⟨sound, left⟩,
        fun ⟨sound, left⟩ => ⟨⟨sound, left.of_cons operator⟩, left⟩⟩

/-- An operand is counted as one value more. -/
theorem Depth.step_of_isOperand (operand : t.isOperand = true) (depth : Nat) :
    Depth.step depth t = .ok (depth + 1) := by
  cases t with
  | var name => rfl
  | const value => rfl
  | _ => cases operand

/-- An operator gets through if a value is left after it. -/
theorem Depth.step_operator_eq_ok_iff {op : Operator} {before depth : Nat}
    (count : out.countP Token.isOperand = out.countP Token.isConnective + before) :
    Depth.step before (.operator op) = .ok depth ↔ LeavesValue (.operator op :: out) ∧
      (Token.operator op :: out).countP Token.isOperand =
        (Token.operator op :: out).countP Token.isConnective + depth := by
  have taken : (Token.operator op :: out).countP Token.isConnective =
      out.countP Token.isConnective + (op.arity.operands - 1) := by
    cases op with
    | negation => exact List.countP_cons_of_neg Bool.false_ne_true
    | binary c => exact List.countP_cons_of_pos rfl
  have given : (Token.operator op :: out).countP Token.isOperand = out.countP Token.isOperand :=
    List.countP_cons_of_neg Bool.false_ne_true
  have least : 1 ≤ op.arity.operands := by
    cases op <;> simp [Operator.arity, Arity.operands]
  rw [leavesValue_cons_iff rfl, taken, given, Depth.step]
  by_cases lacks : before < op.arity.operands
  · rw [if_pos lacks]
    refine iff_of_false (fun taken => ?_) (by omega)
    cases taken
  · rw [if_neg lacks, Except.ok.injEq]
    omega

/-- The count of values gets through what has come out if it is **sound**, and then it is the
number of operands less that of connectives. -/
theorem Depth.run_reverse_eq_ok_iff
    (plain : ∀ t ∈ out, t.isOperand = true ∨ t.isOperator = true) {depth : Nat} :
    Depth.run 0 out.reverse = .ok depth ↔
      Sound out ∧ out.countP Token.isOperand = out.countP Token.isConnective + depth := by
  induction out generalizing depth with
  | nil =>
      simp only [List.reverse_nil, List.countP_nil, sound_nil, true_and, Nat.zero_add]
      exact ⟨Except.ok.inj, congrArg Except.ok⟩
  | cons t out ih =>
      have ih {depth} := @ih (fun u mem => plain u (List.mem_cons_of_mem t mem)) depth
      have single (before : Nat) : Depth.run before [t] = Depth.step before t := by
        rw [Depth.run, List.foldlM_cons]
        cases Depth.step before t <;> rfl
      rw [List.reverse_cons, Depth.run_append, bind_eq_ok_iff, sound_cons_iff]
      simp only [ih, single]
      rcases plain t List.mem_cons_self with operand | operator
      · have counts := @List.countP_cons_of_pos _ Token.isOperand t out operand
        have others := @List.countP_cons_of_neg _ Token.isConnective t out
          (Bool.eq_false_iff.mp (Token.isConnective_of_isOperand operand))
        rw [counts, others]
        constructor
        · rintro ⟨before, ⟨sound, count⟩, last⟩
          obtain rfl := Except.ok.inj ((Depth.step_of_isOperand operand before).symm.trans last)
          exact ⟨⟨sound, (sound out (List.suffix_refl out)).operand operand⟩, by omega⟩
        · rintro ⟨⟨sound, -⟩, count⟩
          have few := (sound out (List.suffix_refl out)).countP_le
          obtain ⟨before, rfl⟩ := Nat.exists_eq_add_of_le' (show 1 ≤ depth by omega)
          exact ⟨before, ⟨sound, by omega⟩, Depth.step_of_isOperand operand before⟩
      · cases t with
        | operator op =>
            constructor
            · rintro ⟨before, ⟨sound, count⟩, last⟩
              obtain ⟨left, count⟩ := (Depth.step_operator_eq_ok_iff count).mp last
              exact ⟨⟨sound, left⟩, count⟩
            · rintro ⟨⟨sound, left⟩, count⟩
              have few := (sound out (List.suffix_refl out)).countP_le
              obtain ⟨before, balance⟩ := Nat.exists_eq_add_of_le few
              exact ⟨before, ⟨sound, balance⟩,
                (Depth.step_operator_eq_ok_iff balance).mpr ⟨left, count⟩⟩
        | _ => cases operator

end Sound

/-! ### The check after the reordering -/

namespace Yard

variable {ts late : List Token} {t : Token} {yard next : Yard}

/-- What is released are operators, on top of what was put out before. -/
theorem exists_late_release (leaves : Operator → Bool) (output : List Token)
    (stack : List Pending) :
    ∃ late, (release leaves output stack).1 = late ++ output ∧ ∀ t ∈ late, t.isOperator = true := by
  have stays : ∀ t ∈ ([] : List Token), t.isOperator = true := List.forall_mem_nil _
  fun_induction release leaves output stack with
  | case1 output op stack leave ih =>
      obtain ⟨late, released, operators⟩ := ih
      refine ⟨late ++ [.operator op], ?_, fun t mem => ?_⟩
      · rw [released, List.append_assoc, List.singleton_append]
      · rcases List.mem_append.mp mem with mem | mem
        · exact operators t mem
        · rw [List.mem_singleton.mp mem]
          rfl
  | case2 => exact ⟨[], rfl, stays⟩
  | case3 => exact ⟨[], rfl, stays⟩

/-- One token keeps what has come out sound exactly if a value is left after it. -/
theorem sound_of_step (taken : step yard t = .ok next) :
    Sound next.output ↔ Sound yard.output ∧ LeavesValue next.output := by
  cases t with
  | var name => cases taken; exact sound_cons_iff
  | const value => cases taken; exact sound_cons_iff
  | openParen => cases taken; exact @sound_append_iff yard.output [] nofun
  | closeParen =>
      obtain ⟨late, released, operators⟩ :=
        exists_late_release (fun _ => true) yard.output yard.stack
      simp only [step] at taken
      split at taken
      · next rest below all =>
          cases taken
          rw [all] at released
          obtain rfl : rest = late ++ yard.output := released
          exact sound_append_iff operators
      · cases taken
  | operator op =>
      cases taken
      obtain ⟨late, released, operators⟩ :=
        exists_late_release (op.precedence ≤ ·.precedence) yard.output yard.stack
      exact released ▸ sound_append_iff operators
  | unknown text => cases taken

/-- A **whole run** keeps what has come out sound exactly if a value is left after every
token. -/
theorem sound_of_run (ran : run yard ts = .ok next) :
    Sound next.output ↔ Sound yard.output ∧
      ∀ read middle, read <+: ts → run yard read = .ok middle → LeavesValue middle.output := by
  induction ts generalizing yard with
  | nil =>
      cases ran
      refine ⟨fun sound => ⟨sound, fun read middle left ran => ?_⟩, And.left⟩
      obtain rfl := List.prefix_nil.mp left
      cases ran
      exact sound _ (List.suffix_refl _)
  | cons t ts ih =>
      rw [run, List.foldlM_cons] at ran
      obtain ⟨first, taken, others⟩ := bind_eq_ok_iff.mp ran
      rw [ih others, sound_of_step taken]
      constructor
      · rintro ⟨⟨sound, left⟩, later⟩
        refine ⟨sound, fun read middle front ran => ?_⟩
        rcases List.prefix_cons_iff.mp front with rfl | ⟨read, rfl, rest⟩
        · cases ran
          exact sound _ (List.suffix_refl _)
        · exact later read middle rest (run_cons_of_eq_ok taken read ▸ ran)
      · rintro ⟨sound, each⟩
        refine ⟨⟨sound, each [t] first ?_ ?_⟩, fun read middle front ran => ?_⟩
        · exact List.cons_prefix_cons.mpr ⟨rfl, List.nil_prefix⟩
        · exact run_cons_of_eq_ok taken []
        · refine each (t :: read) middle (List.cons_prefix_cons.mpr ⟨rfl, front⟩) ?_
          rw [run_cons_of_eq_ok taken, ran]

/-- After some tokens a value is left exactly if there are more operands among them than
connectives whose scope has ended, as soon as any scope has. -/
theorem leavesValue_iff (ran : run {} ts = .ok yard) :
    LeavesValue yard.output ↔ (Scope.ended ts ≠ [] →
      (Scope.ended ts).countP Token.isConnective < ts.countP Token.isOperand) := by
  have out := output_perm ran
  have operators := @Scope.isOperator_of_mem_ended ts
  have reached : (∃ t ∈ yard.output, t.isOperator = true) ↔ Scope.ended ts ≠ [] := by
    constructor
    · rintro ⟨t, mem, operator⟩ nothing
      have operand := out.subset mem
      rw [nothing, List.nil_append, List.mem_filter,
        Token.isOperand_of_isOperator operator] at operand
      cases operand.2
    · intro reached
      obtain ⟨t, mem⟩ := List.exists_mem_of_ne_nil _ reached
      exact ⟨t, out.symm.subset (List.mem_append_left _ mem), operators t mem⟩
  have taken : yard.output.countP Token.isConnective =
      (Scope.ended ts).countP Token.isConnective := by
    have noConnective : (ts.filter Token.isOperand).countP Token.isConnective = 0 :=
      List.countP_eq_zero.mpr fun t mem =>
        Bool.eq_false_iff.mp (Token.isConnective_of_isOperand (List.mem_filter.mp mem).2)
    rw [out.countP_eq, List.countP_append, noConnective, Nat.add_zero]
  have given : yard.output.countP Token.isOperand = ts.countP Token.isOperand := by
    have noOperand : (Scope.ended ts).countP Token.isOperand = 0 :=
      List.countP_eq_zero.mpr fun t mem =>
        Bool.eq_false_iff.mp (Token.isOperand_of_isOperator (operators t mem))
    rw [out.countP_eq, List.countP_append, noOperand, Nat.zero_add, List.countP_filter]
    simp only [Bool.and_self]
  rw [LeavesValue, reached, taken, given]

/-- A run gets through the first of its tokens. -/
theorem exists_run_of_prefix (ran : run yard ts = .ok next) {read : List Token}
    (front : read <+: ts) : ∃ middle, run yard read = .ok middle := by
  obtain ⟨rest, rfl⟩ := front
  rw [run, List.foldlM_append] at ran
  obtain ⟨middle, first, -⟩ := bind_eq_ok_iff.mp ran
  exact ⟨middle, first⟩

/-- What has come out of a whole run is sound exactly if there are more operands than
connectives whose scope has ended wherever any scope has. -/
theorem sound_output_iff (ran : run {} ts = .ok yard) :
    Sound yard.output ↔ ∀ read, read <+: ts → Scope.ended read ≠ [] →
      (Scope.ended read).countP Token.isConnective < read.countP Token.isOperand := by
  rw [sound_of_run ran, and_iff_right sound_nil]
  constructor
  · intro each read front
    obtain ⟨middle, first⟩ := exists_run_of_prefix ran front
    exact (leavesValue_iff first).mp (each read middle front first)
  · intro each read middle front first
    exact (leavesValue_iff first).mpr (each read front)

end Yard

/-- Reordering leaves the numbers of operands and of connectives as they are. -/
theorem countP_toReversePolish {ts polish : List Token} (order : toReversePolish ts = .ok polish)
    {p : Token → Bool} (noParen : ∀ t, p t = true → t.isParen = false) :
    polish.countP p = ts.countP p := by
  rw [(toReversePolish_perm order).countP_eq, List.countP_filter]
  refine List.countP_congr fun t _ => ?_
  cases chosen : p t with
  | false => rfl
  | true => rw [noParen t chosen]; rfl

/-- After the reordering tokens pass the check **exactly if** they have one operand more than
connectives, and wherever the scope of an operator has ended, there are more operands up to
there than connectives whose scope has ended. -/
theorem checkDepth_reordered_iff {ts polish : List Token}
    (order : toReversePolish ts = .ok polish) :
    checkDepth polish = .ok () ↔
      ts.countP Token.isOperand = ts.countP Token.isConnective + 1 ∧
        ∀ read, read <+: ts → Scope.ended read ≠ [] →
          (Scope.ended read).countP Token.isConnective < read.countP Token.isOperand := by
  obtain ⟨yard, ran, finished⟩ := bind_eq_ok_iff.mp order
  have operands := countP_toReversePolish order fun _ => Token.isParen_of_isOperand
  have connectives := countP_toReversePolish order fun _ connective =>
    Token.isParen_of_isOperator (Token.isOperator_of_isConnective connective)
  have plain : ∀ t ∈ polish.reverse, t.isOperand = true ∨ t.isOperator = true := by
    intro t mem
    have went := (toReversePolish_perm order).subset (List.mem_reverse.mp mem)
    obtain ⟨kind, known⟩ := Yard.kind_of_run ran t (List.mem_filter.mp went).1
    cases t with
    | openParen | closeParen => cases (List.mem_filter.mp went).2
    | unknown text => cases known
    | operator op => exact .inr rfl
    | _ => exact .inl rfl
  have sound : Sound polish.reverse ↔ Sound yard.output ∧ LeavesValue polish.reverse := by
    obtain ⟨late, released, operators⟩ :=
      Yard.exists_late_release (fun _ => true) yard.output yard.stack
    simp only [Yard.finish] at finished
    split at finished
    · next rest all =>
        cases finished
        rw [all] at released
        obtain rfl : rest = late ++ yard.output := released
        rw [List.reverse_reverse]
        exact sound_append_iff operators
    · cases finished
  have depth := @Depth.run_reverse_eq_ok_iff _ plain 1
  rw [List.reverse_reverse, List.countP_reverse, List.countP_reverse, operands, connectives, sound,
    Yard.sound_output_iff ran] at depth
  rw [checkDepth_eq_ok_iff_run, depth, and_comm]
  refine and_congr_right fun one => and_iff_left fun _ => ?_
  rw [List.countP_reverse, List.countP_reverse, operands, connectives, one]
  exact Nat.lt_succ_self _

/-- At the end of `a ∧ b ∨` the scope of the conjunction has ended. -/
example : Scope.ended [.var "a", .operator (.binary .and), .var "b", .operator (.binary .or)] =
    [.operator (.binary .and)] :=
  rfl

end Junctor
