import Junctor.Proofs.Outcomes
import Junctor.ReversePolish

/-!
# Nothing Is Lost in the Yard

Whatever tokens a yard is given, well formed or not, it holds each token but the parentheses
exactly once, either put out or waiting. Tokens that look alike are told apart by their
positions: a yard that is given the tokens with their positions holds them with their
positions, and everything that it has put out when an operand comes in stood before the
operand. This is shown of one step and carried over a whole run.

An operand is put out at once, so that the operands come out in the order of their positions,
which is the one in which they come in. An operator waits at first, and comes out behind all
operands that it stood behind.

## Main results

* `Yard.Tagged`: a yard with the positions of its tokens; `Yard.Tagged.step`,
  `Yard.Tagged.run`: what one token and a whole run do to it.
* `toReversePolish_perm`: the reordered tokens are those given, parentheses apart.
* `toReversePolish_operands`: the operands keep their order.
* `toReversePolish_conserves`: all of this of the reordered tokens.
-/

namespace Junctor

/-- An operand is no parenthesis. -/
theorem Token.isParen_of_isOperand {t : Token} (operand : t.isOperand = true) :
    t.isParen = false := by
  cases t with
  | var name => rfl
  | const value => rfl
  | _ => cases operand

/-- Tokens are chosen with or without their positions. -/
theorem filter_map_fst (p : Token → Bool) (tagged : List (Token × Nat)) :
    (tagged.map Prod.fst).filter p = (tagged.filter (p ·.1)).map Prod.fst :=
  List.filter_map

/-- The positions in a list increase. -/
theorem pairwise_zipIdx (ts : List Token) : ts.zipIdx.Pairwise (·.2 < ·.2) := by
  have positions : (ts.zipIdx.map Prod.snd).Pairwise (· < ·) := by
    rw [List.zipIdx_map_snd]
    exact List.pairwise_lt_range' 1
  exact List.pairwise_map.mp positions

/-- The token that waits, unless it is a parenthesis. -/
def Pending.token? : Pending → Option Token
  | paren => none
  | operator op => some (.operator op)

namespace Yard

/-- What was read is **in the yard, with its positions**: the tokens put out, the latest
first, and those that wait, the top first. No operand was put out behind a token that was
read later. -/
structure Tagged (read : List (Token × Nat)) (yard : Yard) (out waiting : List (Token × Nat)) :
    Prop where
  /-- The tokens that were put out. -/
  output : out.map Prod.fst = yard.output
  /-- The tokens that wait. -/
  stack : waiting.map Prod.fst = yard.stack.filterMap Pending.token?
  /-- Everything is there that was read, parentheses apart. -/
  perm : (out ++ waiting).Perm (read.filter (!·.1.isParen))
  /-- Only tokens that were read before an operand were put out before it. -/
  ordered : out.Pairwise fun late early => late.1.isOperand = true → early.2 < late.2

namespace Tagged

variable {read out waiting : List (Token × Nat)} {output : List Token} {stack : List Pending}
variable {n : Nat}

/-- An operator on top of the stack may be put out at any time. -/
theorem released {op : Operator} (h : Tagged read ⟨output, .operator op :: stack⟩ out waiting) :
    ∃ out' waiting', Tagged read ⟨.operator op :: output, stack⟩ out' waiting' := by
  obtain ⟨first, rest, rfl, top, below⟩ := List.map_eq_cons_iff.mp h.stack
  refine ⟨first :: out, rest, ?_, below, List.perm_middle.symm.trans h.perm,
    List.pairwise_cons.mpr ⟨fun early _ operand => ?_, h.ordered⟩⟩
  · rw [List.map_cons, h.output, top]
  · rw [top] at operand
    cases operand

/-- Releasing keeps the positions. -/
theorem release (h : Tagged read ⟨output, stack⟩ out waiting) (leaves : Operator → Bool) :
    ∃ out' waiting', Tagged read
      ⟨(Yard.release leaves output stack).1, (Yard.release leaves output stack).2⟩
      out' waiting' := by
  fun_induction Yard.release leaves output stack generalizing out waiting with
  | case1 output op stack leaves ih =>
      obtain ⟨out, waiting, h⟩ := h.released
      exact ih h
  | case2 => exact ⟨out, waiting, h⟩
  | case3 => exact ⟨out, waiting, h⟩

/-- An operand is put out behind tokens that were read before it. -/
theorem operand (h : Tagged read ⟨output, stack⟩ out waiting) {t : Token}
    (operand : t.isOperand = true) (earlier : ∀ pair ∈ read, pair.2 < n) :
    Tagged (read ++ [(t, n)]) ⟨t :: output, stack⟩ ((t, n) :: out) waiting where
  output := by rw [List.map_cons, h.output]
  stack := h.stack
  perm := by
    have counted : [(t, n)].filter (!·.1.isParen) = [(t, n)] := by
      simp [Token.isParen_of_isOperand operand]
    rw [List.filter_append, counted]
    exact (List.perm_append_singleton _ _).symm.trans (h.perm.append_right _)
  ordered := by
    refine List.pairwise_cons.mpr ⟨fun early mem _ => earlier early ?_, h.ordered⟩
    exact (List.mem_filter.mp (h.perm.subset (List.mem_append_left _ mem))).1

/-- An operator waits with its position. -/
theorem operator (h : Tagged read ⟨output, stack⟩ out waiting) (op : Operator) (n : Nat) :
    Tagged (read ++ [(.operator op, n)]) ⟨output, .operator op :: stack⟩ out
      ((.operator op, n) :: waiting) where
  output := h.output
  stack := congrArg (Token.operator op :: ·) h.stack
  perm := by
    rw [List.filter_append]
    refine List.perm_middle.trans ?_
    exact (List.perm_append_singleton _ _).symm.trans (h.perm.append_right _)
  ordered := h.ordered

/-- A parenthesis that is read does not count. -/
theorem paren {yard : Yard} (h : Tagged read yard out waiting) (next : Yard) {t : Token}
    (paren : t.isParen = true) (put : next.output = yard.output)
    (same : next.stack.filterMap Pending.token? = yard.stack.filterMap Pending.token?) (n : Nat) :
    Tagged (read ++ [(t, n)]) next out waiting where
  output := h.output.trans put.symm
  stack := h.stack.trans same.symm
  perm := by
    have uncounted : [(t, n)].filter (!·.1.isParen) = [] := by simp [paren]
    rw [List.filter_append, uncounted]
    exact (List.append_nil _).symm ▸ h.perm
  ordered := h.ordered

/-- One token is read **with its position**, if it stands behind those that were read
before. -/
theorem step {yard next : Yard} (h : Tagged read yard out waiting) {t : Token}
    (earlier : ∀ pair ∈ read, pair.2 < n) (taken : yard.step t = .ok next) :
    ∃ out' waiting', Tagged (read ++ [(t, n)]) next out' waiting' := by
  obtain ⟨output, stack⟩ := yard
  cases t with
  | var name => cases taken; exact ⟨_, _, h.operand rfl earlier⟩
  | const value => cases taken; exact ⟨_, _, h.operand rfl earlier⟩
  | openParen => cases taken; exact ⟨out, waiting, h.paren ⟨output, .paren :: stack⟩ rfl rfl rfl n⟩
  | closeParen =>
      obtain ⟨out, waiting, h⟩ := h.release fun _ => true
      simp only [Yard.step] at taken
      split at taken
      · next rest below all =>
          cases taken
          rw [all] at h
          exact ⟨out, waiting, h.paren ⟨rest, below⟩ rfl rfl rfl n⟩
      · cases taken
  | operator op =>
      obtain ⟨out, waiting, h⟩ := h.release (op.precedence ≤ ·.precedence)
      cases taken
      exact ⟨_, _, h.operator op n⟩
  | unknown text => cases taken

/-- A run reads **all its tokens with their positions**. -/
theorem run {yard next : Yard} (h : Tagged read yard out waiting) {ts : List Token}
    (earlier : ∀ pair ∈ read, pair.2 < n) (ran : yard.run ts = .ok next) :
    ∃ out' waiting', Tagged (read ++ ts.zipIdx n) next out' waiting' := by
  induction ts generalizing yard read out waiting n with
  | nil => cases ran; exact ⟨out, waiting, (List.append_nil _).symm ▸ h⟩
  | cons t ts ih =>
      rw [Yard.run, List.foldlM_cons] at ran
      obtain ⟨middle, first, rest⟩ := bind_eq_ok_iff.mp ran
      obtain ⟨out, waiting, h⟩ := h.step earlier first
      have next : ∀ pair ∈ read ++ [(t, n)], pair.2 < n + 1 := by
        intro pair mem
        rcases List.mem_append.mp mem with mem | mem
        · exact Nat.lt_succ_of_lt (earlier pair mem)
        · rw [List.mem_singleton.mp mem]
          exact Nat.lt_succ_self n
      have whole := ih h next rest
      rwa [List.append_assoc, List.singleton_append, ← List.zipIdx_cons] at whole

/-- At the end everything is put out with its position. -/
theorem finish {yard : Yard} {polish : List Token} (h : Tagged read yard out waiting)
    (done : yard.finish = .ok polish) :
    ∃ tagged : List (Token × Nat), tagged.map Prod.fst = polish ∧
      tagged.Perm (read.filter (!·.1.isParen)) ∧
      tagged.Pairwise fun first second => second.1.isOperand = true → first.2 < second.2 := by
  obtain ⟨output, stack⟩ := yard
  obtain ⟨out, waiting, h⟩ := h.release fun _ => true
  simp only [Yard.finish] at done
  split at done
  · next rest all =>
      cases done
      rw [all] at h
      obtain rfl := List.map_eq_nil_iff.mp h.stack
      refine ⟨out.reverse, ?_, ?_, List.pairwise_reverse.mpr h.ordered⟩
      · rw [List.map_reverse, h.output]
      · exact (List.reverse_perm out).trans (List.append_nil out ▸ h.perm)
  · cases done

end Tagged

end Yard

/-! ### The reordering -/

variable {ts polish : List Token}

/-- The reordered tokens are those given, parentheses apart, with their positions. -/
theorem exists_tagged (h : toReversePolish ts = .ok polish) :
    ∃ tagged : List (Token × Nat), tagged.map Prod.fst = polish ∧
      tagged.Perm (ts.zipIdx.filter (!·.1.isParen)) ∧
      tagged.Pairwise fun first second => second.1.isOperand = true → first.2 < second.2 := by
  obtain ⟨yard, ran, finished⟩ := bind_eq_ok_iff.mp h
  have start : Yard.Tagged [] {} [] [] := ⟨rfl, rfl, .refl _, .nil⟩
  have nothing : ∀ pair ∈ ([] : List (Token × Nat)), pair.2 < 0 := fun _ mem => by cases mem
  obtain ⟨out, waiting, tagged⟩ := start.run nothing ran
  exact tagged.finish finished

/-- **Nothing is lost and nothing added**: the reordered tokens are those given, parentheses
apart. -/
theorem toReversePolish_perm (h : toReversePolish ts = .ok polish) :
    polish.Perm (ts.filter (!·.isParen)) := by
  obtain ⟨tagged, rfl, perm, -⟩ := exists_tagged h
  have forgotten := perm.map Prod.fst
  rwa [← filter_map_fst (!·.isParen), List.zipIdx_map_fst] at forgotten

/-- The operands keep their order, since each of them comes out as soon as it is read. -/
theorem toReversePolish_operands (h : toReversePolish ts = .ok polish) :
    polish.filter Token.isOperand = ts.filter Token.isOperand := by
  obtain ⟨tagged, rfl, perm, ordered⟩ := exists_tagged h
  have same : (tagged.filter (·.1.isOperand)).Perm (ts.zipIdx.filter (·.1.isOperand)) := by
    have chosen := perm.filter (·.1.isOperand)
    rw [List.filter_filter] at chosen
    refine chosen.trans (.of_eq (List.filter_congr fun pair _ => ?_))
    cases operand : pair.1.isOperand with
    | false => rfl
    | true => rw [Token.isParen_of_isOperand operand]; rfl
  have sorted : (tagged.filter (·.1.isOperand)).Pairwise (·.2 < ·.2) :=
    (ordered.filter _).imp_of_mem fun _ mem before => before (List.mem_filter.mp mem).2
  have equal := same.eq_of_pairwise
    (fun _ _ _ _ less greater => absurd less (Nat.lt_asymm greater)) sorted
    ((pairwise_zipIdx ts).filter _)
  rw [filter_map_fst, equal, ← filter_map_fst Token.isOperand, List.zipIdx_map_fst]

/-- A token that comes out went in. -/
theorem mem_of_mem_toReversePolish (h : toReversePolish ts = .ok polish) {t : Token}
    (mem : t ∈ polish) : t ∈ ts :=
  (List.mem_filter.mp ((toReversePolish_perm h).mem_iff.mp mem)).1

/-- Reordering **loses nothing and invents nothing**. What comes out are the tokens that went
in with their multiplicities, parentheses apart, and the operands among them in their order.
With the positions that the tokens had, no operand comes out behind a token that it stood
before: every operator comes out behind all operands that it stood behind. -/
theorem toReversePolish_conserves {ts polish : List Token} (h : toReversePolish ts = .ok polish) :
    polish.Perm (ts.filter (!·.isParen)) ∧
      polish.filter Token.isOperand = ts.filter Token.isOperand ∧
      ∃ tagged : List (Token × Nat), tagged.map Prod.fst = polish ∧
        tagged.Perm (ts.zipIdx.filter (!·.1.isParen)) ∧
        tagged.Pairwise fun first second => second.1.isOperand = true → first.2 < second.2 :=
  ⟨toReversePolish_perm h, toReversePolish_operands h, exists_tagged h⟩

/-- The tokens `a ∨ ( 1 ¬ a ) →`, which are no formula, come out as `a 1 a ¬ ∨ →`. -/
theorem toReversePolish_conserves_stray :
    ∃ (polish : List Token) (tagged : List (Token × Nat)),
      toReversePolish [.var "a", .operator (.binary .or), .openParen, .const true,
        .operator .negation, .var "a", .closeParen, .operator (.binary .implies)] = .ok polish ∧
      polish = [.var "a", .const true, .var "a", .operator .negation, .operator (.binary .or),
        .operator (.binary .implies)] ∧
      tagged.map Prod.fst = polish ∧
      tagged.Perm [(.var "a", 0), (.operator (.binary .or), 1), (.const true, 3),
        (.operator .negation, 4), (.var "a", 5), (.operator (.binary .implies), 7)] ∧
      tagged.Pairwise fun first second => second.1.isOperand = true → first.2 < second.2 := by
  obtain ⟨-, -, tagged, same, perm, ordered⟩ := @toReversePolish_conserves
    [.var "a", .operator (.binary .or), .openParen, .const true, .operator .negation, .var "a",
      .closeParen, .operator (.binary .implies)] _ rfl
  exact ⟨_, tagged, rfl, rfl, same, perm, ordered⟩

end Junctor
