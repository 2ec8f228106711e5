import Junctor.Proofs.EntryPoints
import Junctor.Proofs.Yard

/-!
# Repeated Negations

In the yard a second negation releases the first one in front of what it should apply to.
Where no operand has come before, the first negation finds none, and the formula is refused.
Where there is one, the first negation takes that operand away, and the formula is accepted
but misread: negations are printed with parentheses between them for this reason.

The invariant `Placed` says what becomes of tokens of the large grammar. It follows the
number of values along the reordered tokens, and it compares how late the operators stand in
them with how late they stand in the postorder of the formula that is derived.

## Main results

* `Placed.paren`, `Placed.negate`, `Placed.again`, `Placed.binary`: the invariant for each
  rule of the grammar.
* `Derives.settles`: the invariant holds of the large grammar.
* `Derives.repeated_negation`: two adjacent negations are noticed exactly if they come before
  all operands, and a formula in which they are not noticed is misread.
* `not_all_repeated_negations_refused`: `a ∨ ¬¬b` is such a formula.
-/

namespace Junctor

/-! ### Adjacent negations -/

/-- Are there two adjacent negations among the tokens? -/
def Doubled (ts : List Token) : Prop :=
  [Token.operator .negation, .operator .negation] <:+: ts

instance (ts : List Token) : Decidable (Doubled ts) :=
  inferInstanceAs (Decidable (_ <:+: _))

/-- Are there two adjacent negations before all operands? -/
def NegationsLead (ts : List Token) : Prop := Doubled (ts.takeWhile (!·.isOperand))

instance (ts : List Token) : Decidable (NegationsLead ts) :=
  inferInstanceAs (Decidable (Doubled _))

/-- Two adjacent negations are at the front or later on. -/
theorem doubled_cons_iff {t : Token} {ts : List Token} :
    Doubled (t :: ts) ↔
      (t = .operator .negation ∧ ts.head? = some (.operator .negation)) ∨ Doubled ts := by
  rw [Doubled, List.infix_cons_iff, ← Doubled, List.cons_prefix_cons]
  cases ts with
  | nil => simp
  | cons u ts => simp [eq_comm]

/-- Another token keeps negations apart. -/
theorem doubled_append_iff {ts us : List Token} {t : Token} (other : t ≠ .operator .negation) :
    Doubled (ts ++ t :: us) ↔ Doubled ts ∨ Doubled us := by
  induction ts with
  | nil =>
      have apart : ¬ Doubled [] := by decide
      simp [doubled_cons_iff, other, apart]
  | cons u ts ih =>
      have next : (ts ++ t :: us).head? = some (.operator .negation) ↔
          ts.head? = some (.operator .negation) := by
        cases ts with
        | nil => simp [other]
        | cons v ts => rfl
      rw [List.cons_append, doubled_cons_iff, doubled_cons_iff, ih, next, or_assoc]

/-- Tokens that come after an operand do not matter for the negations before it. -/
theorem negationsLead_append {ts : List Token} (operand : ∃ t ∈ ts, t.isOperand = true)
    (us : List Token) : NegationsLead (ts ++ us) ↔ NegationsLead ts := by
  have stops : (ts ++ us).takeWhile (!·.isOperand) = ts.takeWhile (!·.isOperand) := by
    obtain ⟨t, mem, operand⟩ := operand
    induction ts with
    | nil => cases mem
    | cons u ts ih =>
        rw [List.cons_append, List.takeWhile_cons, List.takeWhile_cons]
        split
        · next stays =>
            have later : t ∈ ts := by
              rcases List.mem_cons.mp mem with rfl | later
              · simp [operand] at stays
              · exact later
            rw [ih later]
        · rfl
  rw [NegationsLead, NegationsLead, stops]

/-- A token in front keeps the negations where they are, unless it is a negation next to
another one. -/
theorem negationsLead_cons {t : Token} {ts : List Token} (noOperand : t.isOperand = false)
    (apart : t = .operator .negation → ts.head? ≠ some (.operator .negation)) :
    NegationsLead (t :: ts) ↔ NegationsLead ts := by
  have stays : (t :: ts).takeWhile (!·.isOperand) = t :: ts.takeWhile (!·.isOperand) := by
    rw [List.takeWhile_cons, if_pos (by rw [noOperand]; rfl)]
  rw [NegationsLead, stays, doubled_cons_iff, ← NegationsLead]
  refine or_iff_right ?_
  rintro ⟨negation, next⟩
  refine apart negation ?_
  cases ts with
  | nil => cases next
  | cons u ts =>
      rw [List.takeWhile_cons] at next
      split at next
      · exact next
      · cases next

/-- Two negations in front come before all operands. -/
theorem negationsLead_again (ts : List Token) :
    NegationsLead (.operator .negation :: .operator .negation :: ts) :=
  doubled_cons_iff.mpr (.inl ⟨rfl, rfl⟩)

/-! ### How late operators stand -/

/-- How late the operators stand: the operands before each of them, summed up, where `seen`
have come before all. -/
def lag (seen : Nat) : List Token → Nat
  | [] => 0
  | t :: ts =>
    (if t.isOperator then seen else 0) + lag (if t.isOperand then seen + 1 else seen) ts

/-- The tokens that come later have all operands before them that come earlier. -/
theorem lag_append (seen : Nat) (ts us : List Token) :
    lag seen (ts ++ us) = lag seen ts + lag (seen + ts.countP Token.isOperand) us := by
  induction ts generalizing seen with
  | nil => simp [lag]
  | cons t ts ih =>
      have count : (if t.isOperand then seen + 1 else seen) + ts.countP Token.isOperand =
          seen + (t :: ts).countP Token.isOperand := by
        rw [List.countP_cons]
        split <;> omega
      rw [List.cons_append, lag, lag, ih, count, Nat.add_assoc]

/-- An operator in front has only what has come before all before it. -/
theorem lag_cons_operator (seen : Nat) (op : Operator) (ts : List Token) :
    lag seen (.operator op :: ts) = seen + lag seen ts := rfl

/-- An operator at the end has all operands before it. -/
theorem lag_append_operator (seen : Nat) (ts : List Token) (op : Operator) :
    lag seen (ts ++ [.operator op]) = lag seen ts + (seen + ts.countP Token.isOperand) := by
  rw [lag_append]
  rfl

/-! ### What becomes of the tokens -/

/-- The tokens `ts`, derived as `f`, have **been put in the order** `order`: what this leaves
of the formula, and how the count of operands goes on it. -/
structure Placed (ts : List Token) (f : Formula) (order : List Token) : Prop where
  /-- They have the operands of the formula. -/
  operands : order.countP Token.isOperand = f.postorder.countP Token.isOperand
  /-- With negations in the lead, an operator finds too few values. -/
  rejected : NegationsLead ts → ∃ e, Depth.run 0 order = .error e
  /-- Otherwise, or with values to spare, there is one value more in the end. -/
  accepted : ∀ depth, 0 < depth ∨ ¬ NegationsLead ts → Depth.run depth order = .ok (depth + 1)
  /-- No operator stands later than in the postorder, all told. -/
  early : ∀ seen, lag seen order ≤ lag seen f.postorder
  /-- With two adjacent negations, an operator stands earlier. -/
  earlier : Doubled ts → ∀ seen, lag seen order < lag seen f.postorder

namespace Placed

variable {ts us order more : List Token} {f g : Formula}

/-- An operand has its place. -/
theorem operand {t : Token} (h : t.isOperand = true) (same : f.postorder = [t]) :
    Placed [t] f [t] := by
  have apart : ¬ Doubled [t] := by
    rw [doubled_cons_iff]
    rintro (⟨-, next⟩ | inside)
    · cases next
    · exact absurd inside (by decide)
  have leads : ¬ NegationsLead [t] := by
    rw [NegationsLead, List.takeWhile_cons, if_neg (by simp [h])]
    decide
  refine ⟨by rw [same], fun lead => absurd lead leads, fun depth _ => ?_,
    fun seen => same ▸ Nat.le_refl _, fun doubled => absurd doubled apart⟩
  cases t with
  | var name => rfl
  | const value => rfl
  | _ => cases h

/-- A formula **in parentheses** has its place. -/
theorem paren (h : Placed ts f order) (operand : ∃ t ∈ ts, t.isOperand = true) :
    Placed (.openParen :: ts ++ [.closeParen]) f order := by
  have leads : NegationsLead (.openParen :: ts ++ [.closeParen]) ↔ NegationsLead ts :=
    (negationsLead_cons rfl fun same => by cases same).trans (negationsLead_append operand _)
  have doubled (again : Doubled (.openParen :: ts ++ [.closeParen])) : Doubled ts := by
    rcases doubled_cons_iff.mp again with ⟨same, -⟩ | again
    · cases same
    · exact ((doubled_append_iff (by decide)).mp again).resolve_right (by decide)
  refine ⟨h.operands, fun lead => h.rejected (leads.mp lead), fun depth spare => ?_, h.early,
    fun again => h.earlier (doubled again)⟩
  exact h.accepted depth (spare.imp_right (mt leads.mpr))

/-- A formula that is negated **once** has its place. -/
theorem negate (h : Placed ts f order) (single : ts.head? ≠ some (.operator .negation)) :
    Placed (.operator .negation :: ts) (.not f) (order ++ [.operator .negation]) := by
  have leads : NegationsLead (.operator .negation :: ts) ↔ NegationsLead ts :=
    negationsLead_cons rfl fun _ => single
  have doubled (again : Doubled (.operator .negation :: ts)) : Doubled ts :=
    (doubled_cons_iff.mp again).resolve_left fun front => single front.2
  constructor
  case operands => rw [Formula.postorder, List.countP_append, List.countP_append, h.operands]
  case rejected =>
    intro lead
    obtain ⟨e, failed⟩ := h.rejected (leads.mp lead)
    exact ⟨e, by rw [Depth.run_append, failed]; rfl⟩
  case accepted =>
    intro depth spare
    rw [Depth.run_append, h.accepted depth (spare.imp_right (mt leads.mpr))]
    rfl
  case early =>
    intro seen
    have := h.early seen
    rw [Formula.postorder, lag_append_operator, lag_append_operator, h.operands]
    omega
  case earlier =>
    intro again seen
    have := h.earlier (doubled again) seen
    rw [Formula.postorder, lag_append_operator, lag_append_operator, h.operands]
    omega

/-- A formula that is negated **once more** has the new negation in front of everything else:
it finds no value, or takes one that is there before. -/
theorem again (h : Placed (.operator .negation :: ts) f order) :
    Placed (.operator .negation :: .operator .negation :: ts) (.not f)
      (.operator .negation :: order) := by
  have operand := f.one_le_countP_postorder
  have sooner (seen : Nat) :
      lag seen (.operator .negation :: order) < lag seen (Formula.not f).postorder := by
    have := h.early seen
    rw [Formula.postorder, lag_cons_operator, lag_append_operator]
    omega
  constructor
  case operands =>
    rw [Formula.postorder, List.countP_append, List.countP_cons_of_neg (by decide), h.operands]
    rfl
  case rejected =>
    intro _
    exact ⟨_, rfl⟩
  case accepted =>
    intro depth spare
    have least : 0 < depth := spare.resolve_right fun apart => apart (negationsLead_again ts)
    have first : Depth.step depth (.operator .negation) = .ok depth := by
      obtain ⟨below, rfl⟩ := Nat.exists_eq_succ_of_ne_zero (Nat.ne_zero_of_lt least)
      rfl
    rw [Depth.run, List.foldlM_cons, first]
    exact h.accepted depth (.inl least)
  case early => exact fun seen => Nat.le_of_lt (sooner seen)
  case earlier => exact fun _ => sooner

/-- Two formulas **that are joined** have their places. -/
theorem binary (c : Connective) (left : Placed ts f order) (right : Placed us g more)
    (operand : ∃ t ∈ ts, t.isOperand = true) :
    Placed (ts ++ .operator (.binary c) :: us) (.binary c f g)
      (order ++ more ++ [.operator (.binary c)]) := by
  have leads : NegationsLead (ts ++ .operator (.binary c) :: us) ↔ NegationsLead ts :=
    negationsLead_append operand _
  have doubled (again : Doubled (ts ++ .operator (.binary c) :: us)) : Doubled ts ∨ Doubled us :=
    (doubled_append_iff fun same => by cases same).mp again
  constructor
  case operands =>
    simp only [Formula.postorder, List.countP_append, left.operands, right.operands]
  case rejected =>
    intro lead
    obtain ⟨e, failed⟩ := left.rejected (leads.mp lead)
    exact ⟨e, by rw [Depth.run_append, Depth.run_append, failed]; rfl⟩
  case accepted =>
    intro depth spare
    have first := left.accepted depth (spare.imp_right (mt leads.mpr))
    have second := right.accepted (depth + 1) (.inl (Nat.succ_pos depth))
    have both : Depth.run depth (order ++ more) = .ok (depth + 1 + 1) := by
      rw [Depth.run_append, first]
      exact second
    rw [Depth.run_append, both]
    rfl
  case early =>
    intro seen
    have := left.early seen
    have := right.early (seen + f.postorder.countP Token.isOperand)
    simp only [Formula.postorder, lag_append, List.countP_append, left.operands, right.operands]
    omega
  case earlier =>
    intro again seen
    have := left.early seen
    have := right.early (seen + f.postorder.countP Token.isOperand)
    simp only [Formula.postorder, lag_append, List.countP_append, left.operands, right.operands]
    rcases doubled again with again | again
    · have := left.earlier again seen
      omega
    · have := right.earlier again (seen + f.postorder.countP Token.isOperand)
      omega

end Placed

/-! ### The large grammar -/

namespace Derives

/-- Every formula has an operand. -/
theorem exists_isOperand {repeated : Bool} {level : Nat} {ts : List Token} {f : Formula}
    (d : Derives repeated level ts f) : ∃ t ∈ ts, t.isOperand = true := by
  induction d with
  | var name => exact ⟨.var name, by simp, rfl⟩
  | const value => exact ⟨.const value, by simp, rfl⟩
  | paren _ ih =>
      obtain ⟨t, mem, operand⟩ := ih
      exact ⟨t, by simp [mem], operand⟩
  | not _ ih =>
      obtain ⟨t, mem, operand⟩ := ih
      exact ⟨t, by simp [mem], operand⟩
  | notAgain _ _ ih =>
      obtain ⟨t, mem, operand⟩ := ih
      exact ⟨t, by simp [mem], operand⟩
  | binary _ _ _ ih _ =>
      obtain ⟨t, mem, operand⟩ := ih
      exact ⟨t, by simp [mem], operand⟩
  | lower _ _ _ ih => exact ih

end Derives

open Yard in
/-- Tokens of a level **settle**: they yield tokens that have been placed, and so do they
after a negation if they may stand there. -/
structure Settles (level : Nat) (ts : List Token) (f : Formula) : Prop where
  /-- What they yield by themselves. -/
  alone : ∃ early waiting, Yields level ts early waiting ∧ Placed ts f (polish early waiting)
  /-- What they put out after a negation. -/
  negated : 4 ≤ level → ∃ early, Negated ts early ∧
    Placed (.operator .negation :: ts) (.not f) (early ++ [.operator .negation])

namespace Settles

variable {ts early : List Token} {f : Formula}

/-- An atom settles. -/
theorem atom (yields : Yard.Yields 5 ts early []) (place : Placed ts f early)
    (single : ts.head? ≠ some (.operator .negation)) : Settles 5 ts f where
  alone := ⟨early, [], yields, by rwa [Yard.polish, List.map_nil, List.append_nil]⟩
  negated _ := ⟨early, yields.negated, place.negate single⟩

/-- What settles after a negation settles with it. -/
theorem negation (h : Settles 4 ts f) : Settles 4 (.operator .negation :: ts) (.not f) where
  alone := by
    obtain ⟨early, after, place⟩ := h.negated (Nat.le_refl 4)
    exact ⟨early, [.negation], after.yields, place⟩
  negated _ := by
    obtain ⟨early, after, place⟩ := h.negated (Nat.le_refl 4)
    exact ⟨_, after.again, place.again⟩

/-- What settles at a level settles at the level below. -/
theorem lower {level : Nat} (h : Settles (level + 1) ts f) : Settles level ts f where
  alone := by
    obtain ⟨early, waiting, yields, place⟩ := h.alone
    exact ⟨early, waiting, yields.lower, place⟩
  negated high := h.negated (Nat.le_succ_of_le high)

end Settles

/-- Tokens of the large grammar **settle** as the formula that is derived, by induction on
the derivation. -/
theorem Derives.settles {level : Nat} {ts : List Token} {f : Formula}
    (d : Derives true level ts f) : Settles level ts f := by
  induction d with
  | var name => exact .atom (.operand rfl) (.operand rfl rfl) (by simp)
  | const value => exact .atom (.operand rfl) (.operand rfl rfl) (by simp)
  | paren inner ih =>
      obtain ⟨early, waiting, yields, place⟩ := ih.alone
      exact .atom yields.paren (place.paren inner.exists_isOperand) (by simp)
  | not _ ih => exact ih.lower.negation
  | notAgain _ _ ih => exact ih.negation
  | @binary _ c _ _ _ _ joins first _ ihLeft ihRight =>
      obtain ⟨early, waiting, left, placeLeft⟩ := ihLeft.alone
      obtain ⟨late, more, right, placeRight⟩ := ihRight.alone
      refine ⟨⟨_, _, left.binary joins right, ?_⟩, fun high => by cases joins <;> omega⟩
      have place := placeLeft.binary c placeRight first.exists_isOperand
      simpa only [Yard.polish, List.map_append, List.map_cons, List.map_nil, List.append_assoc]
        using place
  | lower _ _ _ ih => exact ih.lower

/-! ### What the entry points do -/

/-- Two adjacent negations in a text of the large grammar are noticed **exactly if they come
before all operands**: then validation fails and the text is neither parsed nor made a
function. A text in which they come later is parsed as a formula that is not the one
derived. -/
theorem Derives.repeated_negation {text : String} {ts : List Token} {f : Formula}
    (read : tokens text = .ok ts) (d : Derives true 1 ts f) :
    ((validate (.text text)).isSuccess = false ↔ NegationsLead ts) ∧
      ((∃ cause, Formula.parse text = .error cause) ↔ NegationsLead ts) ∧
      ((∃ cause, BooleanFunction.ofFormula text = .error (.formula cause)) ↔ NegationsLead ts) ∧
      (¬ NegationsLead ts → ∃ g, Formula.parse text = .ok g ∧ (Doubled ts → g ≠ f)) := by
  obtain ⟨early, waiting, yields, place⟩ := d.settles.alone
  have order := yields.toReversePolish_eq
  have refused (lead : NegationsLead ts) (g : Formula) : Formula.parse text ≠ .ok g := by
    intro parsed
    obtain ⟨us, again, same⟩ := Formula.parse_eq_ok_iff.mp parsed
    obtain rfl : ts = us := Except.ok.inj (read.symm.trans again)
    obtain ⟨depth, ran, -⟩ := bind_eq_ok_iff.mp (checkDepth_eq_ok_iff.mpr ⟨g, rfl⟩)
    rw [order] at same
    obtain ⟨e, failed⟩ := place.rejected lead
    rw [Except.ok.inj same, ran] at failed
    cases failed
  have accepted (stays : ¬ NegationsLead ts) :
      ∃ g, Formula.parse text = .ok g ∧ (Doubled ts → g ≠ f) := by
    have depth : checkDepth (Yard.polish early waiting) = .ok () :=
      bind_eq_ok_iff.mpr ⟨1, place.accepted 0 (.inr stays), rfl⟩
    obtain ⟨g, same⟩ := checkDepth_eq_ok_iff.mp depth
    rw [same] at order place
    refine ⟨g, Formula.parse_eq_ok_iff.mpr ⟨ts, read, order⟩, ?_⟩
    rintro doubled rfl
    exact Nat.lt_irrefl _ (place.earlier doubled 0)
  have parsed : (∃ g, Formula.parse text = .ok g) ↔ ¬ NegationsLead ts := by
    constructor
    · rintro ⟨g, parsed⟩ lead
      exact refused lead g parsed
    · intro stays
      obtain ⟨g, parsed, -⟩ := accepted stays
      exact ⟨g, parsed⟩
  refine ⟨?_, ?_, ?_, accepted⟩
  · rw [← Bool.not_eq_true, isSuccess_validate_iff, parsed, Decidable.not_not]
  · rw [exists_eq_error_iff, parsed, Decidable.not_not]
  · rw [BooleanFunction.ofFormula_eq_error_iff read, parsed, Decidable.not_not]

/-- The tokens of `a ∨ ¬¬b` are derived as what one expects. -/
theorem Derives.twice_negated_disjunct :
    Derives true 1 [.var "a", .operator (.binary .or), .operator .negation, .operator .negation,
      .var "b"] (.binary .or (.var "a") (.not (.not (.var "b")))) := by
  have left : Derives true 2 [.var "a"] _ := (Derives.var "a").lower_le (by omega) (by omega)
  have twice := (Derives.var "b").not.notAgain rfl
  have right : Derives true 3 [.operator .negation, .operator .negation, .var "b"] _ :=
    twice.lower_le (by omega) (by omega)
  exact (left.binary .or right).lowest

/-- The tokens of `a ∨ ¬¬b` are read from its text. -/
theorem tokens_twice_negated_disjunct :
    tokens "a ∨ ¬¬b" = .ok [.var "a", .operator (.binary .or), .operator .negation,
      .operator .negation, .var "b"] :=
  eq_ok_of_toOption (by decide +kernel)

/-- In `a ∨ ¬¬b` the negations come after an operand, and the text is parsed as another
formula. -/
theorem Derives.repeated_negation_disjunct :
    ∃ ts f, tokens "a ∨ ¬¬b" = .ok ts ∧ Derives true 1 ts f ∧ ¬ NegationsLead ts ∧
      ∃ g, Formula.parse "a ∨ ¬¬b" = .ok g ∧ g ≠ f := by
  obtain ⟨-, -, -, accepted⟩ :=
    Derives.repeated_negation tokens_twice_negated_disjunct Derives.twice_negated_disjunct
  obtain ⟨g, parsed, other⟩ := accepted (by decide)
  exact ⟨_, _, tokens_twice_negated_disjunct, .twice_negated_disjunct, by decide, g, parsed,
    other (by decide)⟩

/-- **Not all** texts with two adjacent negations are refused: `a ∨ ¬¬b` is accepted as
`¬a ∨ ¬b`. -/
theorem not_all_repeated_negations_refused :
    ¬ (∀ text ts f, tokens text = .ok ts → Derives true 1 ts f → Doubled ts →
      (validate (.text text)).isSuccess = false ∧ ∃ cause, Formula.parse text = .error cause) := by
  intro all
  have refused := (all _ _ _ tokens_twice_negated_disjunct .twice_negated_disjunct (by decide)).1
  have accepted : (validate (.text "a ∨ ¬¬b")).isSuccess = true := by decide +kernel
  rw [accepted] at refused
  cases refused

end Junctor
