import Junctor.Formula.Basis
import Junctor.Proofs.Equivalence

/-!
# One Notion of Acceptance

Six entry points take a text, and each has tests of its own: validation gives every token a
kind and counts operands, parsing builds, rewriting prints what was built, making a function
evaluates all rows of its truth table, and comparing makes two functions first. That they
accept the same texts is brought back to parsing: each of the others succeeds exactly if
parsing does.

A text that is compared with itself is refused for its number of variables only, so that a
comparison with the usual options fails exactly if the text is not accepted, as long as it
has no more than eight variables.

## Main results

* `exists_toBasisText_iff`, `BooleanFunction.exists_ofFormula_iff`,
  `compareFormulas_self_iff`: the other entry points accept what is parsed.
* `evaluate_polish_of_isSuccess`: the reverse Polish order of an accepted text has values.
* `validate_of_error`: the report on any other text.
* `entry_points_agree`: all of this in one statement.
-/

namespace Junctor

/-! ### Rewriting and making functions -/

/-- A text is rewritten over the basis **exactly if it is parsed**, as nothing after parsing
can fail. -/
theorem exists_toBasisText_iff {text : String} :
    (∃ basis, toBasisText text = .ok basis) ↔ ∃ f, Formula.parse text = .ok f := by
  constructor
  · rintro ⟨basis, h⟩
    obtain ⟨f, parsed, -⟩ := bind_eq_ok_iff.mp h
    exact ⟨f, parsed⟩
  · rintro ⟨f, parsed⟩
    exact ⟨f.toBasis.print, bind_eq_ok_iff.mpr ⟨f, parsed, rfl⟩⟩

namespace BooleanFunction

/-- A function is made of a text **exactly if it is parsed**. The table is filled by
evaluation, and that accepts postorders only. -/
theorem exists_ofFormula_iff {text : String} :
    (∃ g, ofFormula text = .ok g) ↔ ∃ f, Formula.parse text = .ok f := by
  constructor
  · rintro ⟨g, made⟩
    exact exists_parse_of_ofFormula made
  · rintro ⟨f, parsed⟩
    obtain ⟨g, made, -⟩ := ofFormula_of_parse parsed
    exact ⟨g, made⟩

/-- If no function is made of a text, there is an error in the formula or nothing to read. -/
theorem fault_of_ofFormula {text : String} {fault : Fault} (h : ofFormula text = .error fault) :
    (∃ cause, fault = .formula cause) ∨ fault = .argument .emptyFormula := by
  rw [ofFormula] at h
  split at h
  · cases h
    exact .inr rfl
  · obtain ⟨cause, -, rfl⟩ := mapError_eq_error_iff.mp h
    exact .inl ⟨cause, rfl⟩

end BooleanFunction

/-! ### Comparing a text with itself -/

namespace Entry

/-- Refuse the first option that bears the name of an argument of one of the entry points
that a comparison of formulas goes through, one after the other. -/
def checkAll (fields : List (String × Value)) : Except Fault Unit := do
  formulas.check fields
  functions.check fields
  run.check fields

/-- Two formulas of which functions are made are compared as these functions, if no option is
refused. -/
theorem compareFormulas_of_made {left right : String} {f g : BooleanFunction}
    (madeLeft : BooleanFunction.ofFormula left = .ok f)
    (madeRight : BooleanFunction.ofFormula right = .ok g) (fields : List (String × Value)) :
    compareFormulas (.text left) (.text right) fields =
      checkAll fields >>= fun _ => compare (some f) (some g) fields := by
  have described : describedByFormulas (.text left) (.text right) = .ok (f, g) :=
    bind_eq_ok_iff.mpr ⟨f, madeLeft, bind_eq_ok_iff.mpr ⟨g, madeRight, rfl⟩⟩
  rw [compareFormulas, described, checkAll]
  show (formulas.check fields >>= fun _ => compareFunctions f g fields) = _
  unfold compareFunctions
  cases formulas.check fields with
  | error fault => rfl
  | ok _ => cases functions.check fields <;> rfl

/-- A comparison with a text of which no function is made fails. -/
theorem compareFormulas_of_error {left : String} {fault : Fault}
    (failed : BooleanFunction.ofFormula left = .error fault) (right : Value) :
    ∃ reason, compareFormulas (.text left) right [] = .ok (.failed reason) := by
  have described : describedByFormulas (.text left) right = .error fault := by
    rw [describedByFormulas]
    show (BooleanFunction.ofFormula left >>= _) = _
    rw [failed]
    rfl
  rw [compareFormulas, described]
  cases fault <;> exact ⟨_, rfl⟩

end Entry

/-- A function made from a formula is found equivalent to itself, if it has no more than eight
variables. -/
theorem compare_self {text : String} {g : BooleanFunction}
    (made : BooleanFunction.ofFormula text = .ok g) (few : g.names.length ≤ 8) :
    compare (some g) (some g) [] = .ok .equivalent := by
  obtain ⟨f, -, origin, sorted, -⟩ := BooleanFunction.ofFormula_eq_ok made
  have was : g.Made := .formula made
  obtain ⟨meaning, means⟩ := was.exists_means
  have members : ∀ x, x ∈ g.names ↔ x ∈ g.names ∨ x ∈ g.names := fun x => (or_self_iff).symm
  have complete : ¬ g.Lacks g.names := by
    rintro ⟨⟨given, numbered⟩, -⟩
    rw [origin] at numbered
    cases numbered
  have free : ¬ Comparison.Obstacle 8 g.names g g := by
    rintro (exceeded | lacks | lacks)
    · omega
    · exact complete lacks
    · exact complete lacks
  have found := @Comparison.equivalent_or_firstDifference .initial presentClock g g [] {} 8 g.names
    meaning meaning was was means means rfl Options.valid_default rfl sorted members free
  rcases found with ⟨equivalent, -⟩ | ⟨v, ⟨differ, -⟩, -⟩
  · exact equivalent
  · exact absurd rfl differ

/-- A comparison of a text with itself comes to a verdict that is **no failure exactly if**
the text is parsed, if it has no more than eight variables. -/
theorem compareFormulas_self_iff {text : String}
    (few : ∀ ts, tokens text = .ok ts → (sortedNames (ts.filterMap Token.name?)).length ≤ 8) :
    (∃ verdict, Entry.compareFormulas (.text text) (.text text) [] = .ok verdict ∧
      ∀ reason, verdict ≠ .failed reason) ↔ ∃ f, Formula.parse text = .ok f := by
  cases made : BooleanFunction.ofFormula text with
  | error fault =>
      refine iff_of_false ?_ fun parsed => ?_
      · obtain ⟨reason, failed⟩ := Entry.compareFormulas_of_error made (.text text)
        rintro ⟨verdict, answered, accepted⟩
        exact accepted reason (Except.ok.inj (answered.symm.trans failed))
      · obtain ⟨g, again⟩ := BooleanFunction.exists_ofFormula_iff.mpr parsed
        rw [made] at again
        cases again
  | ok g =>
      obtain ⟨f, parsed⟩ := BooleanFunction.exists_parse_of_ofFormula made
      obtain ⟨ts, read, -⟩ := Formula.parse_eq_ok_iff.mp parsed
      have bound := few ts read
      rw [← BooleanFunction.names_of_ofFormula read made] at bound
      have answered := (Entry.compareFormulas_of_made made made []).trans (compare_self made bound)
      exact iff_of_true ⟨.equivalent, answered, nofun⟩ ⟨f, parsed⟩

/-! ### What validation reports -/

/-- The variables of a text stand among its typed tokens with their kind. -/
theorem mem_typedTokens {text x : String} {ts : List Token} {typed : List (Token × Token.Kind)}
    (read : tokens text = .ok ts) (kinds : typedTokens text = .ok typed) (mem : .var x ∈ ts) :
    (.var x, .var) ∈ typed := by
  rw [typedTokens, read] at kinds
  obtain ⟨pair, found, made⟩ := exists_mem_of_mapM kinds mem
  cases made
  exact found

/-- The reverse Polish order of an accepted text is evaluated without an error wherever its
variables have values. -/
theorem evaluate_polish_of_isSuccess {text : String} {valuation : Valuation}
    (success : (validate (.text text)).isSuccess = true)
    (bound : ∀ t ∈ (validate (.text text)).tokens, t.2 = .var →
      (valuation t.1.text).isSome = true) :
    ∃ value, evaluate valuation (validate (.text text)).polish = .ok value := by
  obtain ⟨f, parsed⟩ := isSuccess_validate_iff.mp success
  obtain ⟨ts, read, order⟩ := Formula.parse_eq_ok_iff.mp parsed
  obtain ⟨typed, kinds⟩ := exists_typedTokens_of_parse parsed
  rw [validate_text, check_eq_ok_iff.mpr ⟨f, typed, parsed, kinds, rfl⟩] at bound ⊢
  refine ⟨_, evaluate_postorder (v := fun x => (valuation x).getD false) fun x mem => ?_⟩
  have listed := mem_typedTokens read kinds (mem_of_mem_toReversePolish order mem)
  exact eq_some_getD (bound _ listed rfl)

/-- The report on a text that is not accepted is **an ordinary error with a message**, and
nothing else. -/
theorem validate_of_error {text : String} (failure : (validate (.text text)).isSuccess = false) :
    (validate (.text text)).severity = .error ∧ (validate (.text text)).message ≠ "" ∧
      (validate (.text text)).tokens = [] ∧ (validate (.text text)).polish = [] := by
  cases found : check text with
  | ok finding =>
      obtain ⟨f, typed, parsed, -⟩ := check_eq_ok_iff.mp found
      rw [(validate_of_parse parsed).1] at failure
      cases failure
  | error cause =>
      rw [validate_text, found]
      refine ⟨rfl, ?_, rfl, rfl⟩
      show (if cause.message = "" then _ else cause.message) ≠ ""
      rw [if_neg cause.message_ne_empty]
      exact cause.message_ne_empty

/-! ### All entry points -/

/-- All entry points **accept the same texts**: validation succeeds exactly if parsing does,
exactly if rewriting to the basis does, exactly if making a function does, and, with no more
than eight variables, exactly if a comparison of the text with itself comes to a verdict that
is no failure. What validation accepts is evaluated wherever the variables have values. What
it does not accept it reports as an error with a message and nothing else, and no function is
made of it for an error in the formula or in the argument. -/
theorem entry_points_agree (text : String) :
    ((validate (.text text)).isSuccess = true ↔ ∃ f, Formula.parse text = .ok f) ∧
      ((∃ f, Formula.parse text = .ok f) ↔ ∃ basis, toBasisText text = .ok basis) ∧
      ((∃ f, Formula.parse text = .ok f) ↔ ∃ g, BooleanFunction.ofFormula text = .ok g) ∧
      ((∀ ts, tokens text = .ok ts → (sortedNames (ts.filterMap Token.name?)).length ≤ 8) →
        ((∃ f, Formula.parse text = .ok f) ↔
          ∃ verdict, Entry.compareFormulas (.text text) (.text text) [] = .ok verdict ∧
            ∀ reason, verdict ≠ .failed reason)) ∧
      ((validate (.text text)).isSuccess = true → ∀ valuation : Valuation,
        (∀ t ∈ (validate (.text text)).tokens, t.2 = .var → (valuation t.1.text).isSome = true) →
        ∃ value, evaluate valuation (validate (.text text)).polish = .ok value) ∧
      ((validate (.text text)).isSuccess = false →
        (validate (.text text)).severity = .error ∧ (validate (.text text)).message ≠ "" ∧
          (validate (.text text)).tokens = [] ∧ (validate (.text text)).polish = [] ∧
          ∃ fault, BooleanFunction.ofFormula text = .error fault ∧
            ((∃ cause, fault = .formula cause) ∨ ∃ cause, fault = .argument cause)) := by
  refine ⟨isSuccess_validate_iff, exists_toBasisText_iff.symm,
    BooleanFunction.exists_ofFormula_iff.symm, fun few => ?_,
    fun success valuation => evaluate_polish_of_isSuccess success, fun failure => ?_⟩
  · exact (compareFormulas_self_iff few).symm
  · obtain ⟨severity, message, noTokens, noOrder⟩ := validate_of_error failure
    refine ⟨severity, message, noTokens, noOrder, ?_⟩
    cases made : BooleanFunction.ofFormula text with
    | ok g =>
        have parsed := BooleanFunction.exists_parse_of_ofFormula made
        rw [isSuccess_validate_iff.mpr parsed] at failure
        cases failure
    | error fault =>
        refine ⟨fault, rfl, (BooleanFunction.fault_of_ofFormula made).imp_right fun empty => ?_⟩
        exact ⟨_, empty⟩

/-- `a ∧ b` is accepted, compared and evaluated; of `a ∧` no function is made. -/
theorem entry_points_agree_conjunction :
    (∃ verdict, Entry.compareFormulas (.text "a ∧ b") (.text "a ∧ b") [] = .ok verdict ∧
      ∀ reason, verdict ≠ .failed reason) ∧
      (∃ value, evaluate (fun _ => some true) (validate (.text "a ∧ b")).polish = .ok value) ∧
      ∃ fault, BooleanFunction.ofFormula "a ∧" = .error fault := by
  have success : (validate (.text "a ∧ b")).isSuccess = true := by decide +kernel
  have failure : (validate (.text "a ∧")).isSuccess = false := by decide +kernel
  have known : tokens "a ∧ b" = .ok [.var "a", .operator (.binary .and), .var "b"] :=
    eq_ok_of_toOption (by decide +kernel)
  have few : ∀ ts, tokens "a ∧ b" = .ok ts →
      (sortedNames (ts.filterMap Token.name?)).length ≤ 8 := by
    intro ts read
    obtain rfl := Except.ok.inj (known.symm.trans read)
    decide
  obtain ⟨parsed, -, -, compared, valued, -⟩ := entry_points_agree "a ∧ b"
  obtain ⟨-, -, -, -, -, refused⟩ := entry_points_agree "a ∧"
  obtain ⟨-, -, -, -, fault, failed, -⟩ := refused failure
  exact ⟨(compared few).mp (parsed.mp success), valued success _ fun _ _ _ => rfl, fault, failed⟩

end Junctor
