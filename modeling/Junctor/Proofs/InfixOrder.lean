import Junctor.Grammar
import Junctor.Proofs.Scopes
import Mathlib.Data.List.Chain

/-!
# Infix Order

What is accepted is decided after the reordering, when the places are lost in which the
tokens stood: `a b ∧` is accepted like `a ∧ b`. Two things are said about it here. The first
is which texts are accepted at all, in terms of places: there is one operand more than there
are connectives, and wherever the scope of an operator has ended, there are more operands up
to there than connectives whose scope has ended. The second is which accepted texts belong to
the grammar: those in which no operand begins directly behind the end of another one.
Everything else that may be wrong with the places, such as an empty pair of parentheses or a
connective that lacks an operand, is then excluded by the mere numbers.

Between the grammar and this condition there is a scan from the left, `infixOrder`, which
notes whether an operand is wanted next or an operator. From the scan to the grammar the
proof goes along the tokens with the number of parentheses that are open. Where an operand is
wanted, a formula comes first and what closes the parentheses after it; where an operator is
wanted, there may be a connective and another formula before the parentheses are closed. From
the condition to the scan it goes by counting: as long as operands stand apart there are
never too many of them, and there are too few as soon as the scan finds a token in a wrong
place.

## Main results

* `Derives.negated`, `Derives.joined`: what may be put in front of a formula without
  parentheses.
* `exists_derives_iff`: the grammar and the scan agree on tokens with matching parentheses.
* `infixOrder_iff_countP`: the scan and the numbers agree on tokens in which operands stand
  apart.
* `validate_accepts`: which texts are accepted, and which of these are derived.
* `not_all_accepted_derived`: an accepted text that is not derived.
-/

namespace Junctor

/-- Do tokens **stand in infix order**, where `wanted` tells whether an operand comes next?
An operand follows the start, an opening parenthesis and an operator. A connective and a
closing parenthesis follow an operand and a closing parenthesis. -/
def infixOrder (wanted : Bool) : List Token → Bool
  | [] => !wanted
  | .var _ :: ts => wanted && infixOrder false ts
  | .const _ :: ts => wanted && infixOrder false ts
  | .openParen :: ts => wanted && infixOrder true ts
  | .operator .negation :: ts => wanted && infixOrder true ts
  | .operator (.binary _) :: ts => !wanted && infixOrder true ts
  | .closeParen :: ts => !wanted && infixOrder false ts
  | .unknown _ :: _ => false

/-! ### In front of a formula -/

namespace Derives

/-- A negation **in front of a formula** makes a formula. -/
theorem negated {level : Nat} {ts : List Token} {f : Formula} (d : Derives true level ts f) :
    ∃ g, Derives true (min level 4) (.operator .negation :: ts) g := by
  induction d with
  | var name => exact ⟨_, (Derives.var name).not⟩
  | const value => exact ⟨_, (Derives.const value).not⟩
  | paren inner => exact ⟨_, inner.paren.not⟩
  | not atom => exact ⟨_, atom.not.notAgain rfl⟩
  | notAgain large again => exact ⟨_, (again.notAgain large).notAgain rfl⟩
  | @binary level c _ _ _ _ joins _ right ih =>
      obtain ⟨g, left⟩ := ih
      have low : min level 4 = level := by cases joins <;> rfl
      rw [low] at left ⊢
      exact ⟨_, left.binary joins right⟩
  | @lower level _ _ least greatest _ ih =>
      obtain ⟨g, above⟩ := ih
      exact ⟨g, above.lower_le (by omega) (by omega)⟩

/-- A negated or atomic formula and a connective **in front of a formula** make a formula. -/
theorem joined {low level : Nat} {c : Connective} {ts us : List Token} {f g : Formula}
    (joins : Joins low c) (left : Derives true 4 ts f) (right : Derives true level us g) :
    ∃ h, Derives true (min low level) (ts ++ .operator (.binary c) :: us) h := by
  have small : 1 ≤ low ∧ low ≤ 3 := by cases joins <;> decide
  have direct {level : Nat} {us : List Token} {g : Formula} (lt : low < level)
      (right : Derives true level us g) :
      ∃ h, Derives true (min low level) (ts ++ .operator (.binary c) :: us) h := by
    rw [Nat.min_eq_left (Nat.le_of_lt lt)]
    have leftSide := left.lower_le small.1 (by omega)
    have rightSide := right.lower_le (by omega) lt
    exact ⟨_, leftSide.binary joins rightSide⟩
  induction right with
  | var name => exact direct (by omega) (.var name)
  | const value => exact direct (by omega) (.const value)
  | paren inner => exact direct (by omega) inner.paren
  | not atom => exact direct (by omega) atom.not
  | notAgain large again => exact direct (by omega) (again.notAgain large)
  | @binary level c' us vs _ _ joins' first second ih =>
      by_cases lt : low < level
      · exact direct lt (first.binary joins' second)
      · obtain ⟨h, front⟩ := ih
        rw [Nat.min_eq_right (Nat.le_of_not_lt lt)] at front ⊢
        have whole := front.binary joins' second
        rw [List.append_assoc, List.cons_append] at whole
        exact ⟨_, whole⟩
  | @lower level _ _ least greatest _ ih =>
      obtain ⟨h, above⟩ := ih
      exact ⟨h, above.lower_le (by omega) (by omega)⟩

end Derives

/-- Every connective has a level. -/
theorem Connective.exists_joins (c : Connective) : ∃ level, Joins level c := by
  cases c with
  | and => exact ⟨3, .and⟩
  | or => exact ⟨2, .or⟩
  | xor => exact ⟨2, .xor⟩
  | implies => exact ⟨1, .implies⟩
  | iff => exact ⟨1, .iff⟩

/-! ### Along the tokens -/

/-- Tokens begin with a formula, and `rest` holds of what follows it. -/
def Begins (rest : List Token → Prop) (ts : List Token) : Prop :=
  ∃ us vs f, ts = us ++ vs ∧ Derives true 1 us f ∧ rest vs

/-- Where an operator is wanted, `rest` holds at once, or of what follows a connective and a
formula. -/
def Resumes (rest : List Token → Prop) (ts : List Token) : Prop :=
  rest ts ∨ ∃ c us, ts = .operator (.binary c) :: us ∧ Begins rest us

/-- What comes after a formula inside some open parentheses closes them: after each closing one
there may be a connective and another formula. -/
def Closes : Nat → List Token → Prop
  | 0, ts => ts = []
  | depth + 1, ts => ∃ us, ts = .closeParen :: us ∧ Resumes (Closes depth) us

/-- A negated or atomic formula in front of what resumes it begins a formula. -/
theorem Resumes.begins {rest : List Token → Prop} {ts us : List Token} {f : Formula}
    (h : Resumes rest ts) (d : Derives true 4 us f) : Begins rest (us ++ ts) := by
  rcases h with last | ⟨c, after, rfl, vs, ws, g, rfl, right, last⟩
  · exact ⟨us, ts, f, rfl, d.lowest, last⟩
  · obtain ⟨low, joins⟩ := c.exists_joins
    obtain ⟨whole, front⟩ := d.joined joins right
    refine ⟨_, ws, whole, ?_, front.lowest, last⟩
    rw [List.append_assoc, List.cons_append]

/-- A negation **in front** of what begins with a formula begins a formula. -/
theorem Begins.negated {rest : List Token → Prop} {ts : List Token} (h : Begins rest ts) :
    Begins rest (.operator .negation :: ts) := by
  obtain ⟨us, vs, f, rfl, d, last⟩ := h
  obtain ⟨g, front⟩ := d.negated
  exact ⟨_, vs, g, rfl, front.lowest, last⟩

/-- Tokens in infix order begin with a formula if an operand is wanted, and resume one
otherwise; what follows closes the parentheses that are open. -/
theorem begins_or_resumes {wanted : Bool} {depth : Nat} {ts : List Token}
    (order : infixOrder wanted ts = true) (matched : Lexer.checkParens depth ts = .ok ()) :
    if wanted then Begins (Closes depth) ts else Resumes (Closes depth) ts := by
  induction ts generalizing wanted depth with
  | nil =>
      cases wanted with
      | true => cases order
      | false =>
          rw [Lexer.checkParens] at matched
          split at matched
          · next closed => exact .inl (closed ▸ rfl)
          · cases matched
  | cons t ts ih =>
      cases t with
      | var name =>
          obtain ⟨rfl, order⟩ := Bool.and_eq_true_iff.mp order
          have after : Resumes (Closes depth) ts := ih order matched
          exact after.begins (Derives.var name).unsigned
      | const value =>
          obtain ⟨rfl, order⟩ := Bool.and_eq_true_iff.mp order
          have after : Resumes (Closes depth) ts := ih order matched
          exact after.begins (Derives.const value).unsigned
      | openParen =>
          obtain ⟨rfl, order⟩ := Bool.and_eq_true_iff.mp order
          have inside : Begins (Closes (depth + 1)) ts := ih order matched
          obtain ⟨us, _, f, rfl, d, vs, rfl, after⟩ := inside
          have whole := after.begins d.paren.unsigned
          rwa [List.append_assoc] at whole
      | closeParen =>
          obtain ⟨closed, order⟩ := Bool.and_eq_true_iff.mp order
          obtain rfl : wanted = false := by simpa using closed
          cases depth with
          | zero => cases matched
          | succ depth =>
              have after : Resumes (Closes depth) ts := ih order matched
              exact .inl ⟨ts, rfl, after⟩
      | operator op =>
          cases op with
          | negation =>
              obtain ⟨rfl, order⟩ := Bool.and_eq_true_iff.mp order
              have after : Begins (Closes depth) ts := ih order matched
              exact after.negated
          | binary c =>
              obtain ⟨closed, order⟩ := Bool.and_eq_true_iff.mp order
              obtain rfl : wanted = false := by simpa using closed
              have after : Begins (Closes depth) ts := ih order matched
              exact .inr ⟨c, ts, rfl, after⟩
      | unknown text => cases order

/-- After a formula the scan wants an operator, whatever comes next. -/
theorem Derives.infixOrder_append {repeated : Bool} {level : Nat} {ts : List Token} {f : Formula}
    (d : Derives repeated level ts f) (us : List Token) :
    infixOrder true (ts ++ us) = infixOrder false us := by
  induction d generalizing us with
  | var name => rfl
  | const value => rfl
  | @paren ts f _ ih =>
      have inside : infixOrder true (.openParen :: ts ++ [.closeParen] ++ us) =
          infixOrder true (ts ++ .closeParen :: us) := by
        rw [List.append_assoc]
        rfl
      rw [inside, ih]
      rfl
  | not _ ih => exact ih us
  | notAgain _ _ ih => exact ih us
  | @binary _ c ts vs f g _ _ _ ihLeft ihRight =>
      rw [List.append_assoc, ihLeft, List.cons_append]
      exact ihRight us
  | lower _ _ _ ih => exact ih us

/-- Tokens with matching parentheses are derived by the grammar **exactly if they stand in
infix order**, where the scan expects an operand and an operator by turns. -/
theorem exists_derives_iff {ts : List Token} (matched : Lexer.checkParens 0 ts = .ok ()) :
    (∃ f, Derives true 1 ts f) ↔ infixOrder true ts = true := by
  constructor
  · rintro ⟨f, d⟩
    have whole := d.infixOrder_append []
    rw [List.append_nil] at whole
    exact whole
  · intro order
    have whole : Begins (Closes 0) ts := begins_or_resumes order matched
    obtain ⟨us, _, f, rfl, d, rfl⟩ := whole
    exact ⟨f, (List.append_nil us).symm ▸ d⟩

/-! ### By numbers -/

/-- Does an operand end with the token? -/
def Token.endsOperand (t : Token) : Bool := t.isOperand || t == .closeParen

/-- Does an operand begin with the token? -/
def Token.beginsOperand (t : Token) : Bool :=
  t.isOperand || t == .openParen || t == .operator .negation

/-- Operands stand apart: none begins directly behind the end of another one. -/
def Apart (ts : List Token) : Prop :=
  ts.IsChain fun t u => ¬ (t.endsOperand = true ∧ u.beginsOperand = true)

instance (ts : List Token) : Decidable (Apart ts) :=
  inferInstanceAs (Decidable (ts.IsChain _))

/-- Where an operator is wanted, no operand begins in front of the tokens. -/
def Fits (wanted : Bool) (ts : List Token) : Prop :=
  wanted = false → ∀ t ∈ ts.head?, t.beginsOperand = false

/-- Tokens that stand apart fit behind the first of them, where it leaves open whether an
operand is wanted. -/
theorem apart_cons_iff {t : Token} {ts : List Token} :
    Apart (t :: ts) ↔ Fits (!t.endsOperand) ts ∧ Apart ts := by
  rw [Apart, List.isChain_cons, ← Apart, Fits]
  refine and_congr_left fun _ => ?_
  cases t.endsOperand <;> simp

/-- The scan takes a token of a kind if an operand is wanted just when one begins with it,
and then it wants an operand unless one has ended. -/
theorem infixOrder_cons {t : Token} {kind : Token.Kind} (known : t.kind? = .ok kind) (wanted : Bool)
    (ts : List Token) :
    infixOrder wanted (t :: ts) =
      ((wanted == t.beginsOperand) && infixOrder (!t.endsOperand) ts) := by
  cases t with
  | unknown text => cases known
  | operator op => cases op <;> cases wanted <;> rfl
  | _ => cases wanted <;> rfl

/-- A token is an operand or wants one just when it is a connective or an operand begins with
it. -/
theorem Token.toNat_balance {t : Token} {kind : Token.Kind} (known : t.kind? = .ok kind) :
    t.isOperand.toNat + (!t.endsOperand).toNat = t.isConnective.toNat + t.beginsOperand.toNat := by
  cases t with
  | unknown text => cases known
  | operator op => cases op <;> rfl
  | _ => rfl

/-- A token in front counts by its truth value. -/
theorem countP_cons_toNat (p : Token → Bool) (t : Token) (ts : List Token) :
    (t :: ts).countP p = ts.countP p + (p t).toNat := by
  rw [List.countP_cons]
  cases p t <;> rfl

/-- Where no token is wrong in front, an operand is wanted at least when one begins. -/
theorem Fits.toNat_le {wanted : Bool} {t : Token} {ts : List Token} (fits : Fits wanted (t :: ts)) :
    t.beginsOperand.toNat ≤ wanted.toNat := by
  cases wanted with
  | true => exact Bool.toNat_le _
  | false => rw [fits rfl t rfl]

section Numbers

variable {wanted : Bool} {ts : List Token}

/-- In infix order operands stand apart. -/
theorem apart_of_infixOrder (known : ∀ t ∈ ts, ∃ kind, t.kind? = .ok kind)
    (order : infixOrder wanted ts = true) : Fits wanted ts ∧ Apart ts := by
  induction ts generalizing wanted with
  | nil => exact ⟨fun _ _ front => (nomatch front), List.IsChain.nil⟩
  | cons t ts ih =>
      obtain ⟨kind, here⟩ := known t List.mem_cons_self
      rw [infixOrder_cons here, Bool.and_eq_true, beq_iff_eq] at order
      obtain ⟨rfl, order⟩ := order
      refine ⟨fun begins u front => ?_, apart_cons_iff.mpr ?_⟩
      · obtain rfl := Option.some.inj front
        exact begins
      · exact ih (fun u mem => known u (List.mem_cons_of_mem t mem)) order

/-- Where operands stand apart, there are **not too many** of them, and just as many as fit
exactly if the tokens stand in infix order. -/
theorem infixOrder_iff_countP (known : ∀ t ∈ ts, ∃ kind, t.kind? = .ok kind) (fits : Fits wanted ts)
    (apart : Apart ts) :
    ts.countP Token.isOperand ≤ ts.countP Token.isConnective + wanted.toNat ∧
      (infixOrder wanted ts = true ↔
        ts.countP Token.isOperand = ts.countP Token.isConnective + wanted.toNat) := by
  induction ts generalizing wanted with
  | nil => cases wanted <;> simp [infixOrder]
  | cons t ts ih =>
      obtain ⟨kind, here⟩ := known t List.mem_cons_self
      obtain ⟨next, apart⟩ := apart_cons_iff.mp apart
      obtain ⟨bound, order⟩ := ih (fun u mem => known u (List.mem_cons_of_mem t mem)) next apart
      have balance := Token.toNat_balance here
      have least := fits.toNat_le
      have same : wanted = t.beginsOperand ↔ wanted.toNat = t.beginsOperand.toNat := by
        cases wanted <;> cases t.beginsOperand <;> decide
      rw [infixOrder_cons here, Bool.and_eq_true, beq_iff_eq, same, order, countP_cons_toNat,
        countP_cons_toNat]
      omega

/-- Tokens with matching parentheses and one operand more than connectives are derived
exactly if operands stand apart. -/
theorem exists_derives_iff_apart (matched : Lexer.checkParens 0 ts = .ok ())
    (known : ∀ t ∈ ts, ∃ kind, t.kind? = .ok kind)
    (one : ts.countP Token.isOperand = ts.countP Token.isConnective + 1) :
    (∃ f, Derives true 1 ts f) ↔ Apart ts := by
  rw [exists_derives_iff matched]
  constructor
  · exact fun order => (apart_of_infixOrder known order).2
  · intro apart
    have fits : Fits true ts := nofun
    exact (infixOrder_iff_countP known fits apart).2.mpr one

end Numbers

/-! ### Accepted texts -/

/-- The tokens of a text come out of the yard exactly if they are all of a kind. -/
theorem exists_toReversePolish_of_tokens {text : String} {ts : List Token}
    (read : tokens text = .ok ts) :
    (∃ polish, toReversePolish ts = .ok polish) ↔ ∀ t ∈ ts, ∃ kind, t.kind? = .ok kind := by
  constructor
  · rintro ⟨polish, order⟩
    obtain ⟨yard, ran, -⟩ := bind_eq_ok_iff.mp order
    exact Yard.kind_of_run ran
  · intro known
    have balanced := (tokens_eq_ok_iff.mp read).2.1
    refine exists_toReversePolish_iff.mpr ⟨fun before t after e split offends => ?_, ?_⟩
    · cases offends with
      | stray noOperand noParen noOperator =>
          obtain ⟨kind, here⟩ := known t (by rw [split]; simp)
          cases t with
          | unknown text => cases here
          | operator op => cases noOperator
          | openParen | closeParen => cases noParen
          | _ => cases noOperand
      | closing closed => exact balanced.not_closing split closed
    · have closed := balanced.closed
      rw [openAfter]
      omega

/-- A text is **accepted** exactly if it has tokens that are all of a kind, one operand among
them more than there are connectives, and if, wherever the scope of an operator has ended,
there are more operands up to there than connectives whose scope has ended. The tokens of an
accepted text are **derived** exactly if no operand begins directly behind the end of another
one. -/
theorem validate_accepts (text : String) :
    ((validate (.text text)).isSuccess = true ↔
      ∃ ts, tokens text = .ok ts ∧ (∀ t ∈ ts, ∃ kind, t.kind? = .ok kind) ∧
        ts.countP Token.isOperand = ts.countP Token.isConnective + 1 ∧
        ∀ read, read <+: ts → Scope.ended read ≠ [] →
          (Scope.ended read).countP Token.isConnective < read.countP Token.isOperand) ∧
    ((validate (.text text)).isSuccess = true → ∀ ts, tokens text = .ok ts →
      ((∃ f, Derives true 1 ts f) ↔ Apart ts)) := by
  have accepted : (validate (.text text)).isSuccess = true ↔
      ∃ ts, tokens text = .ok ts ∧ (∀ t ∈ ts, ∃ kind, t.kind? = .ok kind) ∧
        ts.countP Token.isOperand = ts.countP Token.isConnective + 1 ∧
        ∀ read, read <+: ts → Scope.ended read ≠ [] →
          (Scope.ended read).countP Token.isConnective < read.countP Token.isOperand := by
    rw [isSuccess_validate_iff]
    constructor
    · rintro ⟨f, parsed⟩
      obtain ⟨ts, read, order⟩ := Formula.parse_eq_ok_iff.mp parsed
      have depth := checkDepth_eq_ok_iff.mpr ⟨f, rfl⟩
      exact ⟨ts, read, (exists_toReversePolish_of_tokens read).mp ⟨_, order⟩,
        (checkDepth_reordered_iff order).mp depth⟩
    · rintro ⟨ts, read, known, numbers⟩
      obtain ⟨polish, order⟩ := (exists_toReversePolish_of_tokens read).mpr known
      obtain ⟨f, rfl⟩ := checkDepth_eq_ok_iff.mp ((checkDepth_reordered_iff order).mpr numbers)
      exact ⟨f, Formula.parse_eq_ok_iff.mpr ⟨ts, read, order⟩⟩
  refine ⟨accepted, fun success ts read => ?_⟩
  obtain ⟨us, again, known, one, -⟩ := accepted.mp success
  obtain rfl := Except.ok.inj (again.symm.trans read)
  exact exists_derives_iff_apart (scan_of_tokens read).2 known one

/-- The text `a ∧ b` is accepted, no operand in it begins directly behind another one, and
its tokens are derived. -/
theorem validate_accepts_conjunction :
    (validate (.text "a ∧ b")).isSuccess = true ∧
      ∃ ts, tokens "a ∧ b" = .ok ts ∧ Apart ts ∧ ∃ f, Derives true 1 ts f := by
  have success : (validate (.text "a ∧ b")).isSuccess = true := by decide +kernel
  have known : tokens "a ∧ b" = .ok [.var "a", .operator (.binary .and), .var "b"] :=
    eq_ok_of_toOption (by decide +kernel)
  have apart : Apart [.var "a", .operator (.binary .and), .var "b"] := by decide
  exact ⟨success, _, known, apart, ((validate_accepts "a ∧ b").2 success _ known).mpr apart⟩

/-- **Not all accepted texts have tokens that are derived**: the text `a b ∧` is accepted,
since its only operator finds two operands before it. -/
theorem not_all_accepted_derived :
    ¬ ∀ text, (validate (.text text)).isSuccess = true →
      ∃ ts f, tokens text = .ok ts ∧ Derives true 1 ts f := by
  intro all
  obtain ⟨ts, f, read, d⟩ := all "a b ∧" (by decide +kernel)
  have known : tokens "a b ∧" = .ok [.var "a", .var "b", .operator (.binary .and)] :=
    eq_ok_of_toOption (by decide +kernel)
  obtain rfl := Except.ok.inj (known.symm.trans read)
  have order : infixOrder true _ = true :=
    (exists_derives_iff (scan_of_tokens known).2).mp ⟨f, d⟩
  exact absurd order (by decide)

end Junctor
