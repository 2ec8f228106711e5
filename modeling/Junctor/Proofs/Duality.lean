import Junctor.Proofs.FunctionNumbers
import Junctor.Proofs.NormalForms
import Junctor.Proofs.Substitution

/-!
# Negation and Normal Forms

The normal forms of a function that is negated are the other normal forms of the function,
with everything turned round in their texts: what was a conjunction is a disjunction, every
literal is negated, and so is a form that is a constant. The order of the terms and of the
literals in them stays, because the rows do.

Turning a text round is `Text.dual`, which knows nothing of rows or formulas. It replaces
words and signs, and a sign of negation before what has become negated goes away. `Dualizes`
says that this turns one text into another one wherever the text stands, so that it can be
followed through the pieces of a normal form just as reading and counting are.

On the other side, a form and the opposite one are the same construction: the second selects
of the negated rows what the first one selects of the rows, and puts the opposite literals
into its terms.

## Main results

* `Text.dual`: a text that is turned round.
* `Dualizes.intercalate`: a chain of texts is turned round by turning round all of them and
  the connective.
* `Form.dualizes_perfect`: the normal forms of rows and of negated rows.
* `BooleanFunction.rows_eq_map_negated`: the rows of a function with the opposite results.
* `BooleanFunction.negation_dualizes`: formulas that are negated, and function numbers that
  are complements.
-/

namespace Junctor

/-! ### Texts that are turned round -/

namespace Text

/-- The opposite of a word: the constants change places, and any other word is negated. -/
def oppositeWord (word : String) : String :=
  if word = "0" then "1" else if word = "1" then "0" else "¬" ++ word

/-- A sign, where conjunction and disjunction change places. -/
def exchanged (sign : Char) : Char :=
  if sign = '∧' then '∨' else if sign = '∨' then '∧' else sign

/-- Characters from which two signs of negation next to each other are taken away. -/
def withoutPairs : List Char → List Char
  | '¬' :: '¬' :: rest => withoutPairs rest
  | c :: rest => c :: withoutPairs rest
  | [] => []

/-- Characters that are turned round: conjunction and disjunction change places, constants
become the other one, and a negation before a name comes or goes. -/
def dualFrom (cs : List Char) : List Char :=
  withoutPairs ((mapWordsFrom oppositeWord [] cs).map exchanged)

/-- A text that is **turned round**: every word gives way to its opposite, conjunction and
disjunction change places, and what was negated is so no longer. -/
def dual (text : String) : String := String.ofList (dualFrom text.toList)

variable {c : Char} {word cs rest : List Char}

/-- A character of a word is not exchanged. -/
theorem exchanged_of_isAlphanumeric (letter : isAlphanumeric c = true) : exchanged c = c := by
  have noAnd : c ≠ '∧' := by
    rintro rfl
    exact absurd letter (by decide +kernel)
  have noOr : c ≠ '∨' := by
    rintro rfl
    exact absurd letter (by decide +kernel)
  rw [exchanged, if_neg noAnd, if_neg noOr]

/-- No sign is exchanged for that of negation. -/
theorem exchanged_ne_negation (other : c ≠ '¬') : exchanged c ≠ '¬' := by
  unfold exchanged
  split
  · decide
  · split
    · decide
    · exact other

/-- The sign of negation belongs to no word. -/
theorem isAlphanumeric_negation : isAlphanumeric '¬' = false := by decide +kernel

/-- What is no sign of negation stays. -/
theorem withoutPairs_cons (other : c ≠ '¬') (cs : List Char) :
    withoutPairs (c :: cs) = c :: withoutPairs cs :=
  withoutPairs.eq_2 c cs fun _ same _ => other same

/-- What comes before other characters stays, if it has no sign of negation. -/
theorem withoutPairs_append (unsigned : '¬' ∉ word) (cs : List Char) :
    withoutPairs (word ++ cs) = word ++ withoutPairs cs := by
  induction word with
  | nil => rfl
  | cons c word ih =>
      have other : '¬' ≠ c := List.ne_of_not_mem_cons unsigned
      rw [List.cons_append, withoutPairs_cons other.symm,
        ih (List.not_mem_of_not_mem_cons unsigned), List.cons_append]

/-- A single sign of negation stays. -/
theorem withoutPairs_negated (unsigned : '¬' ∉ word) (nonempty : word ≠ []) (cs : List Char) :
    withoutPairs ('¬' :: (word ++ cs)) = '¬' :: (word ++ withoutPairs cs) := by
  rw [← withoutPairs_append unsigned]
  cases word with
  | nil => exact absurd rfl nonempty
  | cons c word =>
      have other : '¬' ≠ c := List.ne_of_not_mem_cons unsigned
      exact withoutPairs.eq_2 '¬' _ fun rest _ same => other (List.cons.inj same).1.symm

/-- Turning characters round goes through a sign that is not that of negation. -/
theorem dualFrom_sign (sign : isAlphanumeric c = false) (other : c ≠ '¬') (cs : List Char) :
    dualFrom (c :: cs) = exchanged c :: dualFrom cs := by
  rw [dualFrom, mapWordsFrom_sign sign]
  exact withoutPairs_cons (exchanged_ne_negation other) _

/-- Where a word is over, its image stands. -/
theorem mapWordsFrom_of_separates {image : String → String} (separates : Separates cs) :
    mapWordsFrom image word cs = wordImage image word ++ mapWordsFrom image [] cs := by
  cases cs with
  | nil => exact (List.append_nil _).symm
  | cons c cs =>
      have sign : isAlphanumeric c = false := separates c rfl
      rw [mapWordsFrom_sign sign, mapWordsFrom_sign sign]
      rfl

/-- A word that is followed by something else gives way to its image. -/
theorem mapWordsFrom_word {image : String → String} {s : String} (letters : isWord s = true)
    (nonempty : s.toList ≠ []) (separates : Separates cs) :
    mapWordsFrom image [] (s.toList ++ cs) = (image s).toList ++ mapWordsFrom image [] cs := by
  have begun : s.toList.reverse.isEmpty = false := by
    rw [List.isEmpty_reverse, List.isEmpty_eq_false_iff]
    exact nonempty
  rw [mapWordsFrom_letters (isWord_iff.mp letters), List.append_nil,
    mapWordsFrom_of_separates separates, wordImage, begun, if_neg Bool.false_ne_true,
    List.reverse_reverse, String.ofList_toList]

end Text

/-- The text **turns into another one** wherever it stands, if what follows ends a word. -/
def Dualizes (s t : String) : Prop :=
  ∀ rest, Text.Separates rest → Text.dualFrom (s.toList ++ rest) = t.toList ++ Text.dualFrom rest

namespace Dualizes

variable {s t s' t' x : String}

/-- By itself the text is turned round into the other one. -/
theorem dual_eq (h : Dualizes s t) : Text.dual s = t := by
  have whole := h [] Text.separates_nil
  rw [List.append_nil] at whole
  rw [Text.dual, whole]
  exact (congrArg String.ofList (List.append_nil _)).trans String.ofList_toList

/-- The opposite of a name is its negation. -/
theorem oppositeWord_of_isName (name : IsName x) : Text.oppositeWord x = "¬" ++ x := by
  have noZero : x ≠ "0" := name.ne_of_startsWithLetter (by decide)
  have noOne : x ≠ "1" := name.ne_of_startsWithLetter (by decide)
  rw [Text.oppositeWord, if_neg noZero, if_neg noOne]

/-- A name that is followed by something else gives way to its negation. -/
theorem map_exchanged_name (name : IsName x) {rest : List Char} (separates : Text.Separates rest) :
    (Text.mapWordsFrom Text.oppositeWord [] (x.toList ++ rest)).map Text.exchanged =
      '¬' :: (x.toList ++ (Text.mapWordsFrom Text.oppositeWord [] rest).map Text.exchanged) := by
  have kept : x.toList.map Text.exchanged = x.toList.map id :=
    List.map_congr_left fun c mem =>
      Text.exchanged_of_isAlphanumeric (Text.isWord_iff.mp name.word c mem)
  rw [Text.mapWordsFrom_word name.word name.toList_ne_nil separates, oppositeWord_of_isName name,
    List.map_append, String.toList_append, List.map_append, kept, List.map_id]
  rfl

/-- A name turns into its negation. -/
theorem name (name : IsName x) : Dualizes x ("¬" ++ x) := by
  intro rest separates
  have unsigned : '¬' ∉ x.toList := Text.not_mem_of_isWord name.word Text.isAlphanumeric_negation
  rw [Text.dualFrom, map_exchanged_name name separates,
    Text.withoutPairs_negated unsigned name.toList_ne_nil, String.toList_append]
  rfl

/-- The negation of a name turns into the name. -/
theorem negated (name : IsName x) : Dualizes ("¬" ++ x) x := by
  intro rest separates
  have unsigned : '¬' ∉ x.toList := Text.not_mem_of_isWord name.word Text.isAlphanumeric_negation
  rw [Text.negated_append, Text.dualFrom, Text.mapWordsFrom_sign Text.isAlphanumeric_negation]
  show Text.withoutPairs ('¬' :: List.map _ _) = _
  rw [map_exchanged_name name separates, Text.withoutPairs, Text.withoutPairs_append unsigned]
  rfl

/-- A constant turns into the other one. -/
theorem constant (value : Bool) :
    Dualizes (Token.constantText value) (Token.constantText !value) := by
  intro rest separates
  have word : Text.isWord (Token.constantText value) = true := by cases value <;> decide
  have nonempty : (Token.constantText value).toList ≠ [] := by cases value <;> decide
  have opposite : (Text.oppositeWord (Token.constantText value)).toList.map Text.exchanged =
      (Token.constantText !value).toList := by cases value <;> decide +kernel
  have unsigned : '¬' ∉ (Token.constantText !value).toList := by cases value <;> decide
  rw [Text.dualFrom, Text.mapWordsFrom_word word nonempty separates, List.map_append, opposite,
    Text.withoutPairs_append unsigned]
  rfl

/-- Parentheses stay. -/
theorem enclosed (h : Dualizes s t) : Dualizes ("(" ++ s ++ ")") ("(" ++ t ++ ")") := by
  intro rest _
  have opening : Text.isAlphanumeric '(' = false := by decide
  have closing : Text.isAlphanumeric ')' = false := by decide
  rw [Text.enclosed_append, Text.enclosed_append, Text.dualFrom_sign opening (by decide),
    h _ (Text.separates_cons closing _), Text.dualFrom_sign closing (by decide)]
  rfl

/-- The sign of a meet is exchanged for that of the other one. -/
theorem exists_symbol_meet (b : Bool) :
    ∃ c, (Connective.meet b).symbol.toList = [c] ∧
      (Connective.meet !b).symbol.toList = [Text.exchanged c] ∧
      Text.isAlphanumeric c = false ∧ c ≠ '¬' := by
  cases b with
  | false => exact ⟨'∨', by decide +kernel⟩
  | true => exact ⟨'∧', by decide +kernel⟩

/-- A meet between texts turns into the other one. -/
theorem joined (left : Dualizes s t) (right : Dualizes s' t') (b : Bool) :
    Dualizes (s ++ (" " ++ (Connective.meet b).symbol ++ " ") ++ s')
      (t ++ (" " ++ (Connective.meet !b).symbol ++ " ") ++ t') := by
  intro rest separates
  obtain ⟨c, symbol, opposite, sign, other⟩ := exists_symbol_meet b
  have space : Text.isAlphanumeric ' ' = false := by decide
  rw [Text.joined_append, Text.joined_append, symbol, opposite, List.singleton_append,
    List.singleton_append, left _ (Text.separates_cons space _),
    Text.dualFrom_sign space (by decide),
    Text.dualFrom_sign sign other, Text.dualFrom_sign space (by decide), right _ separates]
  rfl

variable {α : Type} {text text' : α → String} {items : List α} {b : Bool}

/-- A chain of texts that are joined to a first one is turned round by turning round all of
them, and the connective. -/
theorem joined_intercalate (each : ∀ a ∈ items, Dualizes (text a) (text' a))
    (first : Dualizes s t) :
    Dualizes ((" " ++ (Connective.meet b).symbol ++ " ").intercalate (s :: items.map text))
      ((" " ++ (Connective.meet !b).symbol ++ " ").intercalate (t :: items.map text')) := by
  -- As in reading, what has been joined so far is the first text.
  induction items generalizing s t with
  | nil =>
      rw [List.map_nil, List.map_nil, String.intercalate_singleton, String.intercalate_singleton]
      exact first
  | cons a items ih =>
      have next := first.joined (each a List.mem_cons_self) b
      exact ih (fun a mem => each a (List.mem_cons_of_mem _ mem)) next

/-- A chain of texts is turned round by turning round all of them, and the connective between
them. -/
theorem intercalate (each : ∀ a ∈ items, Dualizes (text a) (text' a)) :
    Dualizes ((" " ++ (Connective.meet b).symbol ++ " ").intercalate (items.map text))
      ((" " ++ (Connective.meet !b).symbol ++ " ").intercalate (items.map text')) := by
  cases items with
  | nil => exact fun _ _ => rfl
  | cons a items =>
      exact joined_intercalate (fun a mem => each a (List.mem_cons_of_mem _ mem))
        (each a List.mem_cons_self)

end Dualizes

/-! ### Normal forms -/

namespace Form

/-- The opposite form. -/
def opposite : Form → Form
  | disjunctive => conjunctive
  | conjunctive => disjunctive

/-- The opposite form selects the other result. -/
theorem selects_opposite (form : Form) : form.opposite.selects = !form.selects := by
  cases form <;> rfl

end Form

/-- The row with the opposite result, at the same values of the variables. -/
def Row.negated (row : Row) : Row := { row with result := .truth !row.result.toValue.isTrue }

namespace Form

variable {names : List String}

/-- The opposite form selects a negated row where the form selects the row. -/
theorem selectsRow_negated (form : Form) (row : Row) :
    form.opposite.selectsRow row.negated = form.selectsRow row := by
  have result : row.negated.result.toValue.isTrue = !row.result.toValue.isTrue := by
    rw [Row.negated, Cell.toValue]
    cases row.result.toValue.isTrue <;> rfl
  rw [Bool.eq_iff_iff, selectsRow_iff, selectsRow_iff, selects_opposite, result, Bool.not_inj_iff]

/-- A literal turns into that of the opposite form. -/
theorem dualizes_literal (form : Form) {x : String} (name : IsName x) (b : Bool) :
    Dualizes (form.literal x (.truth b)) (form.opposite.literal x (.truth b)) := by
  cases form <;> cases b
  · exact .negated name
  · exact .name name
  · exact .name name
  · exact .negated name

/-- A term turns into that of the opposite form. -/
theorem dualizes_term (form : Form) {row : Row} (aligned : row.IsOver names)
    (valid : ∀ x ∈ names, IsName x) : Dualizes (form.term row) (form.opposite.term row) := by
  have each : ∀ pair ∈ names.zip row.values,
      Dualizes (form.literal pair.1 pair.2) (form.opposite.literal pair.1 pair.2) := by
    rintro ⟨x, value⟩ mem
    obtain ⟨named, valued⟩ := List.of_mem_zip mem
    obtain ⟨b, rfl⟩ := aligned.truth value valued
    exact form.dualizes_literal (valid x named) b
  rw [term, term, inner_eq_meet, inner_eq_meet, selects_opposite, aligned.names_eq]
  exact (Dualizes.intercalate each).enclosed

/-- A perfect normal form turns into the opposite form **of the negated rows**, literal by
literal and term by term. -/
theorem dualizes_perfect (form : Form) {rows : List Row} (aligned : ∀ row ∈ rows, row.IsOver names)
    (valid : ∀ x ∈ names, IsName x) :
    Dualizes (form.perfect names rows) (form.opposite.perfect names (rows.map Row.negated)) := by
  have selected : (rows.map Row.negated).filter form.opposite.selectsRow =
      (rows.filter form.selectsRow).map Row.negated := by
    rw [List.filter_map]
    exact congrArg _ (List.filter_congr fun row _ => form.selectsRow_negated row)
  have kept : ∀ row ∈ rows.filter form.selectsRow, row.IsOver names :=
    fun row mem => aligned row (List.mem_filter.mp mem).1
  rw [perfect, perfect, selected]
  generalize rows.filter form.selectsRow = chosen at kept ⊢
  cases chosen with
  | nil =>
      rw [selects_opposite]
      exact .constant _
  | cons row rest =>
      by_cases unnamed : names = []
      · subst unnamed
        show Dualizes (Token.constantText form.selects) (Token.constantText form.opposite.selects)
        rw [selects_opposite]
        exact .constant _
      · have each : ∀ chosen ∈ row :: rest,
            Dualizes (form.term chosen) (form.opposite.term chosen.negated) :=
          fun chosen mem => form.dualizes_term (kept chosen mem) valid
        have whole := Dualizes.intercalate (b := !form.selects) each
        simp only [List.isEmpty_eq_false_iff.mpr unnamed, Bool.false_eq_true, if_false,
          outer_eq_meet, selects_opposite, List.map_cons, List.map_map]
        exact whole

end Form

/-! ### Functions -/

namespace BooleanFunction

variable {f g : BooleanFunction}

/-- A function with the same variables and the opposite results has the negated rows, in the
same order. -/
theorem rows_eq_map_negated (names : g.names = f.names) (results : g.results = f.results.map (!·)) :
    g.rows = f.rows.map Row.negated := by
  rw [rows, rows, names, results, List.zipIdx_map, List.map_map, List.map_map]
  rfl

/-- A normal form of a function that was made turns into the opposite form of a function with
the same variables and the opposite results. -/
theorem Made.normalForm_opposite (made : f.Made) (names : g.names = f.names)
    (results : g.results = f.results.map (!·)) (form : Form) :
    g.normalForm form.opposite = Text.dual (f.normalForm form) := by
  rw [normalForm, normalForm, names, rows_eq_map_negated names results]
  exact (form.dualizes_perfect (fun row => isOver_of_mem_rows) fun x => made.isName).dual_eq.symm

/-- A formula that is negated gives a function with the same variables and the opposite
results. -/
theorem exists_negated_of_ofFormula {text : String} (made : ofFormula text = .ok f) :
    ∃ g, ofFormula ("¬(" ++ text ++ ")") = .ok g ∧ g.names = f.names ∧
      g.results = f.results.map (!·) := by
  obtain ⟨tree, parsed⟩ := exists_parse_of_ofFormula made
  have negated := Formula.parse_not_enclosed parsed
  obtain ⟨h, again, -, -, results⟩ := ofFormula_of_parse parsed
  obtain rfl := Except.ok.inj (made.symm.trans again)
  obtain ⟨g, madeNegated, -, -, opposite⟩ := ofFormula_of_parse negated
  have names : g.names = f.names :=
    (names_of_parse negated madeNegated).trans (names_of_parse parsed made).symm
  refine ⟨g, madeNegated, names, ?_⟩
  rw [opposite, results, names, List.map_map]
  rfl

/-- The complement of a function number has the opposite bits. -/
theorem rowValues_complement {width k : Nat} (below : k < 2 ^ width) :
    rowValues (2 ^ width - 1 - k : Nat) width = (rowValues k width).map (!·) := by
  have complement : 2 ^ width - 1 - k = 2 ^ width - (k + 1) := by omega
  rw [rowValues_natCast, rowValues_natCast, List.map_map, complement]
  refine List.map_congr_left fun i mem => ?_
  have inside : width - 1 - i < width := by
    have := List.mem_range.mp mem
    omega
  rw [Nat.testBit_two_pow_sub_succ below, decide_eq_true inside, Bool.true_and]
  rfl

/-! ### The main result -/

/-- Negation **turns the normal forms round**. Whatever formula a function was made of, its
negation gives a function with the same variables, of which each normal form is the other one
of the first function, turned round as a text. So do function numbers that are complements of
each other. -/
theorem negation_dualizes :
    (∀ (text : String) (f : BooleanFunction), ofFormula text = .ok f →
      ∃ g, ofFormula ("¬(" ++ text ++ ")") = .ok g ∧ g.names = f.names ∧
        g.normalForm .conjunctive = Text.dual (f.normalForm .disjunctive) ∧
        g.normalForm .disjunctive = Text.dual (f.normalForm .conjunctive)) ∧
    ∀ n k : Nat, 1 ≤ n → n ≤ 10 → k < 2 ^ 2 ^ n →
      ∃ f g, ofValues (.int n) (.int k) = .ok f ∧
        ofValues (.int n) (.int (2 ^ 2 ^ n - 1 - k : Nat)) = .ok g ∧ g.names = f.names ∧
        g.normalForm .conjunctive = Text.dual (f.normalForm .disjunctive) ∧
        g.normalForm .disjunctive = Text.dual (f.normalForm .conjunctive) := by
  constructor
  · intro text f made
    obtain ⟨g, madeNegated, names, results⟩ := exists_negated_of_ofFormula made
    have forms := Made.normalForm_opposite (.formula made) names results
    exact ⟨g, madeNegated, names, forms .disjunctive, forms .conjunctive⟩
  · intro n k least greatest below
    have below' : 2 ^ 2 ^ n - 1 - k < 2 ^ 2 ^ n := by omega
    have forms := (made_numbered least greatest below).normalForm_opposite
      (g := numbered n (2 ^ 2 ^ n - 1 - k)) rfl (rowValues_complement below)
    exact ⟨_, _, ofValues_of_lt least greatest below, ofValues_of_lt least greatest below', rfl,
      forms .disjunctive, forms .conjunctive⟩

set_option maxRecDepth 4000 in
/-- The three terms of `a → b` and the only one of its other form are turned round, and so
are the forms of exclusive or, which has the number 6 where equivalence has 9. The constant
`0` becomes `1`. -/
theorem negation_dualizes_implication :
    ∃ f g, ofFormula "a → b" = .ok f ∧ ofFormula "¬(a → b)" = .ok g ∧ g.names = ["a", "b"] ∧
      f.normalForm .disjunctive = "(¬a ∧ ¬b) ∨ (¬a ∧ b) ∨ (a ∧ b)" ∧
      g.normalForm .conjunctive = "(a ∨ b) ∧ (a ∨ ¬b) ∧ (¬a ∨ ¬b)" ∧
      f.normalForm .conjunctive = "(¬a ∨ b)" ∧ g.normalForm .disjunctive = "(a ∧ ¬b)" ∧
      (∃ h, ofFormula "¬(0)" = .ok h ∧ h.normalForm .conjunctive = "1") ∧
      ∃ h, ofValues (.int 2) (.int 9) = .ok h ∧
        h.normalForm .conjunctive = "(x1 ∨ ¬x2) ∧ (¬x1 ∨ x2)" := by
  let f : BooleanFunction := ⟨["a", "b"], [true, true, false, true], .formula "a → b"
    [.var "a", .var "b", .operator (.binary .implies)]⟩
  let zero : BooleanFunction := ⟨[], [false], .formula "0" [.const false]⟩
  obtain ⟨formulas, numbers⟩ := negation_dualizes
  have made : ofFormula "a → b" = .ok f := rfl
  have terms : f.normalForm .disjunctive = "(¬a ∧ ¬b) ∨ (¬a ∧ b) ∨ (a ∧ b)" := by decide +kernel
  have clause : f.normalForm .conjunctive = "(¬a ∨ b)" := by decide +kernel
  obtain ⟨g, negated, names, conjunctive, disjunctive⟩ := formulas "a → b" f made
  rw [terms] at conjunctive
  rw [clause] at disjunctive
  obtain ⟨one, constant, -, conjunctiveOne, -⟩ := formulas "0" zero rfl
  obtain ⟨exclusive, equivalence, given, complement, -, conjunctiveNine, -⟩ :=
    numbers 2 6 (by omega) (by omega) (by decide)
  obtain rfl : ⟨["x1", "x2"], [false, true, true, false], .number (.int 6)⟩ = exclusive :=
    Except.ok.inj given
  exact ⟨f, g, made, negated, names, terms, conjunctive.trans (by decide +kernel), clause,
    disjunctive.trans (by decide +kernel),
    ⟨one, constant, conjunctiveOne.trans (by decide +kernel)⟩, equivalence, complement,
    conjunctiveNine.trans (by decide +kernel)⟩

end BooleanFunction

end Junctor
