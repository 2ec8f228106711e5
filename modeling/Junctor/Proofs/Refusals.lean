import Junctor.Proofs.Spelling

/-!
# What the Yard Refuses

The yard keeps no count of parentheses: an opening one waits on the stack among the
operators, and a closing one takes the topmost that waits. Operators come and go between
them, but whatever is released stays above the topmost parenthesis. So the parentheses that
wait are as many as are open, which is shown of one token and carried over a run.

A token is refused only if it is of no kind or closes what is not open, and at the end
nothing is wrong but that a parenthesis is left open. These are all the errors of the
reordering, and of two the one that comes first counts. The tokens of a text have matching
parentheses, so that only a token of no kind is left to be refused there.

## Main results

* `Offends`: what is wrong with a token, where some number of parentheses is open.
* `Yard.step_eq_error_iff`, `Yard.count_paren_of_run`: what one token and a run do to the
  parentheses that wait.
* `Yard.run_eq_error_iff`, `Yard.finish_eq_error_iff`: where a run and its end fail.
* `toReversePolish_refuses`: the errors of the reordering.
-/

namespace Junctor

/-! ### What is wrong with tokens -/

/-- How many parentheses are open behind tokens in which none is closed that is not open. -/
def openAfter (ts : List Token) : Nat := ts.count .openParen - ts.count .closeParen

/-- Something is **wrong with a token** where some number of parentheses is open: it is of no
kind, or it closes a parenthesis though none is open. -/
inductive Offends (opened : Nat) : Token → FormulaError → Prop where
  | stray {t : Token} (noOperand : t.isOperand = false) (noParen : t.isParen = false)
      (noOperator : t.isOperator = false) : Offends opened t (.unknownToken t.text)
  | closing (closed : opened = 0) : Offends opened .closeParen .missingOpening

/-- Nothing is wrong with any of the tokens, each where it stands. -/
def Inoffensive (ts : List Token) : Prop :=
  ∀ before t after e, ts = before ++ t :: after → ¬ Offends (openAfter before) t e

/-- A token is the **first with which something is wrong**, behind tokens that are not to
blame. -/
structure FirstOffence (ts before : List Token) (t : Token) (e : FormulaError) : Prop where
  /-- It stands behind the tokens before. -/
  split : ∃ after, ts = before ++ t :: after
  /-- Nothing is wrong with these. -/
  earlier : Inoffensive before
  /-- Something is wrong with it. -/
  offends : Offends (openAfter before) t e

namespace Yard

variable {yard next : Yard} {ts : List Token} {t : Token} {e : FormulaError}

/-! ### The parentheses that wait -/

/-- An operator on top of the stack is no parenthesis. -/
theorem count_paren_operator (op : Operator) (stack : List Pending) :
    (.operator op :: stack).count .paren = stack.count .paren :=
  List.count_cons_of_ne (by simp)

/-- Releasing leaves the parentheses where they are. -/
theorem count_paren_release (leaves : Operator → Bool) (output : List Token)
    (stack : List Pending) :
    (release leaves output stack).2.count .paren = stack.count .paren := by
  fun_induction release leaves output stack with
  | case1 output op stack leave ih => rw [ih, count_paren_operator]
  | case2 => rfl
  | case3 => rfl

/-- If everything is released that can be, either nothing is left of the stack, where no
parenthesis waited, or one of those that waited is on top. -/
theorem release_always (output : List Token) (stack : List Pending) :
    (stack.count .paren = 0 ∧ ∃ rest, release (fun _ => true) output stack = (rest, [])) ∨
      ∃ rest below, release (fun _ => true) output stack = (rest, .paren :: below) ∧
        stack.count .paren = below.count .paren + 1 := by
  induction stack generalizing output with
  | nil => exact .inl ⟨rfl, output, rfl⟩
  | cons pending stack ih =>
      cases pending with
      | paren => exact .inr ⟨output, stack, rfl, List.count_cons_self⟩
      | operator op =>
          rw [count_paren_operator]
          exact ih (.operator op :: output)

/-- A token is refused **exactly if something is wrong with it** where as many parentheses
are open as wait. -/
theorem step_eq_error_iff :
    step yard t = .error e ↔ Offends (yard.stack.count .paren) t e := by
  constructor
  · intro refused
    cases t with
    | unknown text => cases refused; exact .stray rfl rfl rfl
    | closeParen =>
        rcases release_always yard.output yard.stack with
          ⟨closed, rest, all⟩ | ⟨rest, below, all, -⟩
        · simp only [step, all] at refused
          cases refused
          exact .closing closed
        · simp only [step, all] at refused
          cases refused
    | _ => cases refused
  · rintro (⟨noOperand, noParen, noOperator⟩ | closed)
    · cases t with
      | unknown text => rfl
      | openParen | closeParen => cases noParen
      | operator op => cases noOperator
      | var | const => cases noOperand
    · rcases release_always yard.output yard.stack with ⟨-, rest, all⟩ | ⟨rest, below, all, waits⟩
      · simp only [step, all]
      · rw [closed] at waits
        cases waits

/-- A token that is taken opens or closes one of the parentheses that wait, or none. -/
theorem count_paren_of_step (taken : step yard t = .ok next) :
    next.stack.count .paren + [t].count .closeParen =
      yard.stack.count .paren + [t].count .openParen := by
  cases t with
  | var name => cases taken; rfl
  | const value => cases taken; rfl
  | openParen =>
      cases taken
      exact List.count_cons_self (a := Pending.paren) (l := yard.stack)
  | closeParen =>
      rcases release_always yard.output yard.stack with ⟨-, rest, all⟩ | ⟨rest, below, all, waits⟩
      · simp only [step, all] at taken
        cases taken
      · simp only [step, all] at taken
        cases taken
        exact waits.symm
  | operator op =>
      cases taken
      exact (count_paren_operator op _).trans (count_paren_release _ _ _)
  | unknown text => cases taken

/-- The parentheses that wait after a run are those that it opened and did not close, as
operators never wait for parentheses. -/
theorem count_paren_of_run (ran : run yard ts = .ok next) :
    next.stack.count .paren + ts.count .closeParen =
      yard.stack.count .paren + ts.count .openParen := by
  induction ts generalizing yard with
  | nil => cases ran; rfl
  | cons t ts ih =>
      rw [run, List.foldlM_cons] at ran
      obtain ⟨middle, first, rest⟩ := bind_eq_ok_iff.mp ran
      have here := count_paren_of_step first
      have others := ih rest
      have pieces (u : Token) : ([t] ++ ts).count u = [t].count u + ts.count u :=
        List.count_append
      rw [← List.singleton_append, pieces, pieces]
      omega

/-- As many parentheses wait as are open. -/
theorem count_paren_eq (ran : run {} ts = .ok next) : next.stack.count .paren = openAfter ts := by
  have counted := count_paren_of_run ran
  rw [List.count_nil, Nat.zero_add] at counted
  rw [openAfter]
  omega

/-! ### Where the yard fails -/

/-- A run gets through exactly if nothing is wrong with any token. -/
theorem exists_run_eq_ok_iff : (∃ next, run {} ts = .ok next) ↔ Inoffensive ts := by
  constructor
  · rintro ⟨next, ran⟩ before t after e rfl offends
    rw [run, List.foldlM_append] at ran
    obtain ⟨last, taken, rest⟩ := bind_eq_ok_iff.mp ran
    rw [List.foldlM_cons] at rest
    obtain ⟨_, step, -⟩ := bind_eq_ok_iff.mp rest
    rw [← count_paren_eq taken] at offends
    rw [step_eq_error_iff.mpr offends] at step
    cases step
  · intro inoffensive
    cases ran : run {} ts with
    | ok next => exact ⟨next, rfl⟩
    | error e =>
        obtain ⟨before, t, after, last, split, taken, refused⟩ := exists_of_foldlM_eq_error ran
        rw [step_eq_error_iff, count_paren_eq taken] at refused
        exact absurd refused (inoffensive before t after e split)

/-- A run fails **with the first offence**: the token behind which nothing is read any more. -/
theorem run_eq_error_iff : run {} ts = .error e ↔ ∃ before t, FirstOffence ts before t e := by
  constructor
  · intro failed
    obtain ⟨before, t, after, last, split, taken, refused⟩ := exists_of_foldlM_eq_error failed
    rw [step_eq_error_iff, count_paren_eq taken] at refused
    exact ⟨before, t, ⟨after, split⟩, exists_run_eq_ok_iff.mp ⟨last, taken⟩, refused⟩
  · rintro ⟨before, t, ⟨after, rfl⟩, earlier, offends⟩
    obtain ⟨last, taken⟩ := exists_run_eq_ok_iff.mpr earlier
    have refused : run last (t :: after) = .error e := by
      rw [← count_paren_eq taken] at offends
      rw [run, List.foldlM_cons, step_eq_error_iff.mpr offends]
      rfl
    rw [run_append_of_eq_ok taken, refused]

/-- The end fails exactly if a parenthesis waits, whatever waits above or below it. -/
theorem finish_eq_error_iff :
    yard.finish = .error e ↔ 0 < yard.stack.count .paren ∧ e = .missingClosing := by
  rcases release_always yard.output yard.stack with ⟨closed, rest, all⟩ | ⟨rest, below, all, waits⟩
  · refine iff_of_false (fun failed => ?_) fun ⟨waits, _⟩ => Nat.ne_of_gt waits closed
    simp only [finish, all] at failed
    cases failed
  · have fails : yard.finish = .error .missingClosing := by simp only [finish, all]
    rw [fails, Except.error.injEq, eq_comm]
    exact (and_iff_right (waits ▸ Nat.succ_pos _)).symm

end Yard

/-! ### The reordering -/

variable {ts : List Token} {e : FormulaError}

/-- The reordering fails with the first offence, or else because a parenthesis is left open. -/
theorem toReversePolish_eq_error_iff :
    toReversePolish ts = .error e ↔ (∃ before t, FirstOffence ts before t e) ∨
      Inoffensive ts ∧ 0 < openAfter ts ∧ e = .missingClosing := by
  rw [toReversePolish, bind_eq_error_iff, Yard.run_eq_error_iff, ← Yard.exists_run_eq_ok_iff]
  refine or_congr_right ⟨?_, ?_⟩
  · rintro ⟨yard, ran, failed⟩
    rw [Yard.finish_eq_error_iff, Yard.count_paren_eq ran] at failed
    exact ⟨⟨yard, ran⟩, failed⟩
  · rintro ⟨⟨yard, ran⟩, failed⟩
    rw [← Yard.count_paren_eq ran, ← Yard.finish_eq_error_iff] at failed
    exact ⟨yard, ran, failed⟩

/-- The reordering succeeds exactly if nothing is wrong and no parenthesis is left open. -/
theorem exists_toReversePolish_iff :
    (∃ polish, toReversePolish ts = .ok polish) ↔ Inoffensive ts ∧ openAfter ts = 0 := by
  constructor
  · rintro ⟨polish, order⟩
    obtain ⟨yard, ran, finished⟩ := bind_eq_ok_iff.mp order
    refine ⟨Yard.exists_run_eq_ok_iff.mp ⟨yard, ran⟩, ?_⟩
    rw [← Yard.count_paren_eq ran]
    refine Nat.eq_zero_of_not_pos fun waits => ?_
    rw [Yard.finish_eq_error_iff.mpr ⟨waits, rfl⟩] at finished
    cases finished
  · rintro ⟨inoffensive, closed⟩
    cases order : toReversePolish ts with
    | ok polish => exact ⟨polish, rfl⟩
    | error e =>
        rcases toReversePolish_eq_error_iff.mp order with
          ⟨before, t, ⟨after, split⟩, -, offends⟩ | ⟨-, left, -⟩
        · exact absurd offends (inoffensive before t after e split)
        · omega

/-- Where parentheses are balanced, none is closed that is not open. -/
theorem Lexer.Balanced.not_closing (balanced : Lexer.Balanced ts) {before after : List Token}
    (split : ts = before ++ .closeParen :: after) : openAfter before ≠ 0 := by
  intro closed
  have opened := balanced.opened (before ++ [.closeParen])
    ⟨after, by rw [split, List.append_assoc]; rfl⟩
  rw [List.count_append, List.count_append] at opened
  have one : List.count Token.closeParen [.closeParen] = 1 := rfl
  have zero : List.count Token.openParen [.closeParen] = 0 := rfl
  rw [openAfter] at closed
  omega

/-- Among tokens with balanced parentheses only a token of no kind is refused. -/
theorem Lexer.Balanced.of_error (balanced : Lexer.Balanced ts)
    (failed : toReversePolish ts = .error e) : ∃ t ∈ ts, e = .unknownToken t.text := by
  rcases toReversePolish_eq_error_iff.mp failed with
    ⟨before, t, ⟨after, rfl⟩, -, offends⟩ | ⟨-, left, -⟩
  · cases offends with
    | stray => exact ⟨t, by simp, rfl⟩
    | closing closed => exact absurd closed (balanced.not_closing rfl)
  · have closed := balanced.closed
    rw [openAfter] at left
    omega

/-- The reordering **refuses nothing else**. It fails with the first token that is of no kind
or closes what is not open, or if there is none because a parenthesis is left open, and
otherwise it succeeds. Of the tokens of a text it refuses only those of no kind, and no
parenthesis. -/
theorem toReversePolish_refuses :
    (∀ ts e, toReversePolish ts = .error e ↔ (∃ before t, FirstOffence ts before t e) ∨
      Inoffensive ts ∧ 0 < openAfter ts ∧ e = .missingClosing) ∧
    (∀ ts, (∃ polish, toReversePolish ts = .ok polish) ↔ Inoffensive ts ∧ openAfter ts = 0) ∧
    (∀ text ts e, tokens text = .ok ts → toReversePolish ts = .error e →
      ∃ t ∈ ts, e = .unknownToken t.text) ∧
    (∀ token, (FormulaError.unknownToken token).message = "unknown token: " ++ token) ∧
    FormulaError.missingOpening.message = "unbalanced parentheses: missing opening parenthesis" ∧
    FormulaError.missingClosing.message =
      "unbalanced parentheses: missing closing parenthesis" := by
  refine ⟨fun ts e => toReversePolish_eq_error_iff, fun ts => exists_toReversePolish_iff,
    fun text ts e read failed => ?_, fun _ => rfl, rfl, rfl⟩
  exact (tokens_eq_ok_iff.mp read).2.1.of_error failed

/-- The text `(a # ) b` has tokens, and the first with which something is wrong is `#`. -/
theorem toReversePolish_refuses_stray :
    ∃ ts before t, tokens "(a # ) b" = .ok ts ∧ toReversePolish ts = .error (.unknownToken "#") ∧
      FirstOffence ts before t (.unknownToken "#") ∧
      ∃ t ∈ ts, FormulaError.unknownToken "#" = .unknownToken t.text := by
  have read : tokens "(a # ) b" =
      .ok [.openParen, .var "a", .unknown "#", .closeParen, .var "b"] := rfl
  have failed : toReversePolish [.openParen, .var "a", .unknown "#", .closeParen, .var "b"] =
      .error (.unknownToken "#") := rfl
  obtain ⟨errors, -, texts, -⟩ := toReversePolish_refuses
  rcases (errors _ _).mp failed with ⟨before, t, first⟩ | ⟨-, -, other⟩
  · exact ⟨_, before, t, read, failed, first, texts _ _ _ read failed⟩
  · cases other

end Junctor
