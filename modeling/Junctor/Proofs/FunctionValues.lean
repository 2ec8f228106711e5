import Junctor.Proofs.NameOrder
import Junctor.Proofs.RowOrder
import Junctor.Proofs.VariableNames

/-!
# The Values of Functions

A function that came from a formula means the truth value of the formula. A function that
came from a number means a digit of the number: the one whose place is that of the row of the
values of its variables, counted from the most significant digit. `BooleanFunction.Means`
states this without mention of the ways in which functions are evaluated, which differ much:
the one runs the tokens of the formula, and the other looks for the first row that agrees
with the assignment.

Both ways lead to what the function means at any assignment that gives values to the
variables of the function, except that no row agrees where a function that came from a number
does not have one of the variables.

## Main results

* `BooleanFunction.ofFormula_eq_ok`, `BooleanFunction.ofNumber_eq_ok`: the parts of functions
  that were made.
* `BooleanFunction.rowFor?_eq`, `BooleanFunction.rowFor?_eq_none`: the first row that agrees
  with an assignment.
* `BooleanFunction.Made.evaluate_eq`: evaluation finds what the function means.
* `BooleanFunction.Made.evaluate_of_lacks`: evaluation fails for lack of a variable.
-/

namespace Junctor

/-! ### Looking up -/

/-- Names that are bound to values of their own are looked up, and no other ones. -/
theorem lookup_map_pair {α : Type} (names : List String) (value : String → α) (x : String) :
    (names.map fun x => (x, value x)).lookup x = if x ∈ names then some (value x) else none := by
  induction names with
  | nil => rfl
  | cons name names ih =>
      rw [List.map_cons, List.lookup_cons]
      by_cases same : x = name
      · rw [beq_iff_eq.mpr same, if_pos (by simp [same]), same]
      · rw [beq_eq_false_iff_ne.mpr same]
        simp only [ih, List.mem_cons, same, false_or]

/-- A name is looked up exactly if it is bound. -/
theorem isSome_lookup_iff {α : Type} {bindings : List (String × α)} {x : String} :
    (bindings.lookup x).isSome = true ↔ x ∈ bindings.map Prod.fst := by
  rw [List.lookup_isSome_iff]
  simp

/-- The item at the first position of which a property holds is found. -/
theorem find?_zipIdx_eq {α : Type} {list : List α} {p : α × Nat → Bool} {index : Nat}
    (below : index < list.length) (here : p (list[index], index) = true)
    (first : ∀ j (h : j < list.length), p (list[j], j) = true → index ≤ j) :
    list.zipIdx.find? p = some (list[index], index) := by
  refine List.find?_eq_some_iff_getElem.mpr ⟨here, index, ?_, ?_, ?_⟩
  · rw [List.length_zipIdx]
    exact below
  · rw [List.getElem_zipIdx, Nat.zero_add]
  · intro j before
    have other : ¬ p (list[j], j) = true := fun h => Nat.not_le_of_lt before (first j _ h)
    rw [List.getElem_zipIdx, Nat.zero_add, Bool.not_eq_true']
    exact Bool.not_eq_true _ ▸ other

/-- The assignment of the values of a valuation to some names. -/
def Assignment.ofValuation (names : List String) (v : String → Bool) : Assignment :=
  .ofTruth (names.map fun x => (x, v x))

/-- The assignment of a valuation pairs the names with their values. -/
theorem Assignment.ofValuation_eq (names : List String) (v : String → Bool) :
    ofValuation names v = names.map fun x => (x, .truth (v x)) := by
  rw [ofValuation, ofTruth, List.map_map]
  rfl

/-- The assignment of a valuation gives the names their values. -/
theorem Assignment.valuation_ofValuation {names : List String} {x : String} (mem : x ∈ names)
    (v : String → Bool) : (ofValuation names v).valuation x = some (v x) := by
  rw [valuation, ofValuation_eq, lookup_map_pair, if_pos mem]
  rfl

/-- A name has a value exactly if it is bound by the assignment. -/
theorem Assignment.isSome_valuation_iff {assignment : Assignment} {x : String} :
    (assignment.valuation x).isSome = true ↔ x ∈ assignment.map Prod.fst := by
  rw [valuation, Option.isSome_map, isSome_lookup_iff]

/-- A name that has a value is bound by the assignment. -/
theorem Assignment.mem_of_valuation {assignment : Assignment} {x : String} {b : Bool}
    (bound : assignment.valuation x = some b) : x ∈ assignment.map Prod.fst :=
  isSome_valuation_iff.mp (Option.isSome_of_eq_some bound)

/-! ### Agreeing with a row -/

/-- A finite float stands beside one integer at most. -/
theorem Number.Binary.eq_of_compareInt {number : Number.Binary} {i j : Int}
    (left : number.compareInt i = .eq) (right : number.compareInt j = .eq) : i = j := by
  have pos : (number.fraction.2 : Int) ≠ 0 :=
    Int.natCast_ne_zero.mpr (Nat.ne_of_gt (Nat.two_pow_pos _))
  have same : i * (number.fraction.2 : Int) = j * number.fraction.2 :=
    (compare_eq_iff_eq.mp left).symm.trans (compare_eq_iff_eq.mp right)
  exact Int.eq_of_mul_eq_mul_right pos same

namespace Value

/-- A value is equal to one integer at most. -/
theorem eq_of_equalsInt {value : Value} {i j : Int} (left : value.equalsInt i = true)
    (right : value.equalsInt j = true) : i = j := by
  cases value with
  | truth b => exact (beq_iff_eq.mp left).symm.trans (beq_iff_eq.mp right)
  | int k => exact (beq_iff_eq.mp left).symm.trans (beq_iff_eq.mp right)
  | float x =>
      rw [equalsInt, Bool.and_eq_true, beq_iff_eq] at left right
      exact Number.Binary.eq_of_compareInt left.2 right.2
  | _ => cases left

/-- A value is equal to the number of one truth value at most. -/
theorem eq_of_equalsInt_toInt {value : Value} {b c : Bool}
    (left : value.equalsInt b.toInt = true) (right : value.equalsInt c.toInt = true) : b = c := by
  have same := eq_of_equalsInt left right
  cases b with
  | false => cases c with
    | false => rfl
    | true => cases same
  | true => cases c with
    | false => cases same
    | true => rfl

end Value

namespace Row

variable {names : List String} {index : Nat} {w : String → Bool}

/-- A row binds its names to the values of its valuation. -/
theorem value?_ofIndex (values : names.map w = rowValues index names.length) (result : Bool)
    (x : String) :
    (ofIndex names index result).value? x = if x ∈ names then some (.truth (w x)) else none := by
  have pairs : names.zip ((rowValues index names.length).map Cell.truth) =
      names.map fun x => (x, Cell.truth (w x)) := by
    rw [← values, List.map_map, List.map_prod_left_eq_zip]
    rfl
  have found := lookup_map_pair names.reverse (fun x => Cell.truth (w x)) x
  rw [List.map_reverse] at found
  simp only [value?, ofIndex, pairs, found, List.mem_reverse]

/-- An assignment agrees with a row exactly if it has names and values of the row. -/
theorem agreesWith_ofIndex_iff (values : names.map w = rowValues index names.length)
    (result : Bool) {assignment : Assignment} :
    (ofIndex names index result).agreesWith assignment = true ↔
      ∀ pair ∈ assignment, pair.1 ∈ names ∧ pair.2.equalsInt (w pair.1).toInt = true := by
  rw [agreesWith, List.all_eq_true]
  refine forall₂_congr fun pair _ => ?_
  simp only [value?_ofIndex values]
  by_cases mem : pair.1 ∈ names
  · rw [if_pos mem, and_iff_right mem]
    rfl
  · rw [if_neg mem]
    exact iff_of_false Bool.false_ne_true fun agree => mem agree.1

end Row

/-! ### The first row that agrees -/

namespace BooleanFunction

variable {f : BooleanFunction} {assignment : Assignment}

/-- The first row that agrees with an assignment has **its values, and false for all other
variables**. -/
theorem rowFor?_eq {v : String → Bool} (distinct : f.names.Nodup)
    (long : f.results.length = 2 ^ f.names.length)
    (known : ∀ pair ∈ assignment, pair.1 ∈ f.names ∧ pair.2.equalsInt (v pair.1).toInt = true)
    (others : ∀ x ∈ f.names, x ∉ assignment.map Prod.fst → v x = false)
    (below : rowNumber (f.names.map v) < f.results.length) :
    f.rowFor? assignment =
      some (f.results[rowNumber (f.names.map v)], rowNumber (f.names.map v)) := by
  have agrees (w : String → Bool) (result : Bool) :
      (Row.ofIndex f.names (rowNumber (f.names.map w)) result).agreesWith assignment = true ↔ _ :=
    Row.agreesWith_ofIndex_iff (rowValues_rowNumber_map f.names w).symm result
  refine find?_zipIdx_eq below ((agrees v _).mpr known) fun j inside agree => ?_
  obtain ⟨w, rfl⟩ := exists_rowNumber_eq distinct (long ▸ inside)
  refine rowNumber_map_le fun x mem holds => ?_
  by_cases bound : x ∈ assignment.map Prod.fst
  · obtain ⟨pair, listed, rfl⟩ := List.mem_map.mp bound
    have same := Value.eq_of_equalsInt_toInt ((agrees w _).mp agree pair listed).2
      (known pair listed).2
    exact same.trans holds
  · rw [others x mem bound] at holds
    cases holds

/-- **No row agrees** with an assignment that binds another name, or a name to no truth
value. -/
theorem rowFor?_eq_none (distinct : f.names.Nodup) {pair : String × Value}
    (listed : pair ∈ assignment)
    (stray : pair.1 ∉ f.names ∨ ∀ b : Bool, pair.2.equalsInt b.toInt = false) :
    f.rowFor? assignment = none := by
  refine List.find?_eq_none.mpr ?_
  rintro ⟨result, index⟩ - agrees
  obtain ⟨w, values⟩ := exists_map_eq distinct (length_rowValues index f.names.length) false
  obtain ⟨mem, equal⟩ := (Row.agreesWith_ofIndex_iff values result).mp agrees pair listed
  rcases stray with absent | other
  · exact absent mem
  · rw [other] at equal
    cases equal

end BooleanFunction

/-! ### Functions that were made -/

namespace BooleanFunction

/-- The function **was made**, from a formula or from its number, so that all its parts
belong together. -/
inductive Made (f : BooleanFunction) : Prop where
  | formula {text : String} (made : ofFormula text = .ok f)
  | number {count number : Cell} (made : ofNumber count number = .ok f)

/-- Did the function come from a number? -/
def IsNumbered (f : BooleanFunction) : Prop := ∃ given, f.origin = .number given

/-- Does a function that came from a number lack a variable of a list? -/
def Lacks (f : BooleanFunction) (union : List String) : Prop :=
  f.IsNumbered ∧ ∃ x ∈ union, x ∉ f.names

/-- What the function **means**: the truth value of its formula, or the digit of its number
in the place of the row of the values. -/
inductive Means (f : BooleanFunction) : ((String → Bool) → Bool) → Prop where
  | formula {text : String} {polish : List Token} {tree : Formula}
      (origin : f.origin = .formula text polish) (parsed : Formula.parse text = .ok tree) :
      Means f tree.eval
  | number {given : Cell} (origin : f.origin = .number given) :
      Means f fun v => given.toInt.toNat.testBit
        (2 ^ f.names.length - 1 - rowNumber (f.names.map v))

/-- The parts of a function **made from a formula**. -/
theorem ofFormula_eq_ok {text : String} {f : BooleanFunction} (made : ofFormula text = .ok f) :
    ∃ tree, Formula.parse text = .ok tree ∧ f.origin = .formula text tree.postorder ∧
      f.names.Pairwise (· < ·) ∧ ∀ x, x ∈ f.names ↔ x ∈ tree.names := by
  obtain ⟨tree, parsed⟩ := exists_parse_of_ofFormula made
  obtain ⟨g, same, origin, named, -⟩ := ofFormula_of_parse parsed
  obtain rfl := Except.ok.inj (made.symm.trans same)
  obtain ⟨ts, read, -⟩ := Formula.parse_eq_ok_iff.mp parsed
  exact ⟨tree, parsed, origin, names_of_ofFormula read made ▸ pairwise_sortedNames _, named⟩

/-- The parts of a function **made from a number**. -/
theorem ofNumber_eq_ok {count number : Cell} {f : BooleanFunction}
    (made : ofNumber count number = .ok f) :
    ∃ n ≤ maxVariables, f.names = numberedVariables n ∧ f.results = digits n number.toInt.toNat ∧
      f.origin = .number number := by
  unfold ofNumber at made
  split at made
  · cases made
  · next within =>
      split at made
      · cases made
      · cases made
        refine ⟨count.toInt.toNat, ?_, rfl, rfl, rfl⟩
        have bounds : countInBounds count.toInt = true := by simpa using within
        rw [countInBounds, Bool.and_eq_true, decide_eq_true_iff, decide_eq_true_iff] at bounds
        omega

/-- The number of numbered variables is as given. -/
@[simp] theorem length_numberedVariables (n : Nat) : (numberedVariables n).length = n := by
  rw [numberedVariables, List.length_map, List.length_range]

/-- There are as many digits as rows. -/
@[simp] theorem length_digits (n number : Nat) : (digits n number).length = 2 ^ n := by
  rw [digits, List.length_map, List.length_range]

namespace Made

variable {f : BooleanFunction} {union : List String} {meaning : (String → Bool) → Bool}
variable {assignment : Assignment} {v : String → Bool}

/-- The variables of a function that was made differ. -/
theorem nodup (made : f.Made) : f.names.Nodup := by
  cases made with
  | formula made =>
      obtain ⟨tree, -, -, sorted, -⟩ := ofFormula_eq_ok made
      exact nodup_of_pairwise sorted
  | number made =>
      obtain ⟨n, bound, names, -, -⟩ := ofNumber_eq_ok made
      exact names ▸ nodup_numberedVariables bound

/-- The variables of a function that was made are names. -/
theorem isName (made : f.Made) {x : String} (mem : x ∈ f.names) : IsName x := by
  cases made with
  | formula made =>
      obtain ⟨tree, parsed, -, -, named⟩ := ofFormula_eq_ok made
      exact isName_of_mem_names parsed ((named x).mp mem)
  | number made =>
      obtain ⟨n, bound, names, -, -⟩ := ofNumber_eq_ok made
      exact isName_of_mem_numberedVariables bound (names ▸ mem)

/-- The variables of a function that was made are words. -/
theorem isWord (made : f.Made) {x : String} (mem : x ∈ f.names) : Text.isWord x = true :=
  (made.isName mem).word

/-- A function that was made has 2^n results. -/
theorem length_results (made : f.Made) : f.results.length = 2 ^ f.names.length := by
  cases made with
  | formula made =>
      obtain ⟨tree, parsed⟩ := exists_parse_of_ofFormula made
      obtain ⟨g, same, -, -, results⟩ := ofFormula_of_parse parsed
      obtain rfl := Except.ok.inj (made.symm.trans same)
      rw [results, List.length_map, List.length_range]
  | number made =>
      obtain ⟨n, -, names, results, -⟩ := ofNumber_eq_ok made
      rw [results, names, length_digits, length_numberedVariables]

/-- The row of a valuation is there. -/
theorem rowNumber_lt_length (made : f.Made) (v : String → Bool) :
    rowNumber (f.names.map v) < f.results.length := by
  have below := rowNumber_lt (f.names.map v)
  rwa [List.length_map, ← made.length_results] at below

/-- In a function made from a number, the result in the row of a valuation is the digit of the
number. -/
theorem getElem_results_number {count number : Cell} (made : ofNumber count number = .ok f)
    (below : rowNumber (f.names.map v) < f.results.length) :
    f.results[rowNumber (f.names.map v)] =
      number.toInt.toNat.testBit (2 ^ f.names.length - 1 - rowNumber (f.names.map v)) := by
  obtain ⟨n, -, names, results, -⟩ := ofNumber_eq_ok made
  have width : f.names.length = n := by rw [names, length_numberedVariables]
  rw [width, List.getElem_of_eq results]
  simp only [digits, List.getElem_map, List.getElem_range]

/-- A function that was made means something. -/
theorem exists_means (made : f.Made) : ∃ meaning, f.Means meaning := by
  cases made with
  | formula made =>
      obtain ⟨tree, parsed, origin, -⟩ := ofFormula_eq_ok made
      exact ⟨_, .formula origin parsed⟩
  | number made =>
      obtain ⟨n, -, -, -, origin⟩ := ofNumber_eq_ok made
      exact ⟨_, .number origin⟩

/-- A function made from a formula has the value of the formula where its variables have
values. -/
theorem evaluate_formula {text : String} {tree : Formula} (made : ofFormula text = .ok f)
    (parsed : Formula.parse text = .ok tree)
    (bound : ∀ x ∈ f.names, assignment.valuation x = some (v x)) :
    f.evaluate assignment = .ok (tree.eval v) := by
  obtain ⟨tree', again, origin, -, named⟩ := ofFormula_eq_ok made
  obtain rfl := Except.ok.inj (parsed.symm.trans again)
  rw [BooleanFunction.evaluate, origin]
  exact mapError_eq_ok_iff.mpr
    (evaluate_postorder fun x mem => bound x ((named x).mpr (Formula.mem_names_iff.mpr mem)))

/-- A function made from a number has the digit of the number for the row in which the
variables that are bound have their values and all others are false. -/
theorem evaluate_number {count number : Cell} (made : ofNumber count number = .ok f)
    (known : ∀ pair ∈ assignment, pair.1 ∈ f.names ∧ pair.2.equalsInt (v pair.1).toInt = true)
    (others : ∀ x ∈ f.names, x ∉ assignment.map Prod.fst → v x = false) :
    f.evaluate assignment = .ok (number.toInt.toNat.testBit
      (2 ^ f.names.length - 1 - rowNumber (f.names.map v))) := by
  obtain ⟨n, -, -, -, origin⟩ := ofNumber_eq_ok made
  have below := rowNumber_lt_length (.number made) v
  have found := rowFor?_eq (Made.nodup (.number made)) (length_results (.number made)) known others
    below
  rw [BooleanFunction.evaluate, origin]
  simp only [found, getElem_results_number made below]

/-- A function made from a number has no value where another name is bound, or a name to no
truth value: no row goes with the assignment, and this is the fault if it can be written. -/
theorem evaluate_number_of_stray {count number : Cell} (made : ofNumber count number = .ok f)
    {pair : String × Value} (listed : pair ∈ assignment)
    (stray : pair.1 ∉ f.names ∨ ∀ b : Bool, pair.2.equalsInt b.toInt = false) :
    f.evaluate assignment = .error (ArgumentError.noRow assignment).fault := by
  obtain ⟨n, -, -, -, origin⟩ := ofNumber_eq_ok made
  have noRow := rowFor?_eq_none (Made.nodup (.number made)) listed stray
  rw [BooleanFunction.evaluate, origin]
  simp only [noRow]

/-- What a function that was made means is the value of its formula or the digit of its
number. -/
theorem eq_of_means (made : f.Made) (means : f.Means meaning) :
    (∃ text tree, ofFormula text = .ok f ∧ Formula.parse text = .ok tree ∧ meaning = tree.eval) ∨
      ∃ count number, ofNumber count number = .ok f ∧ meaning = fun v =>
        number.toInt.toNat.testBit (2 ^ f.names.length - 1 - rowNumber (f.names.map v)) := by
  cases made with
  | @formula text made =>
      obtain ⟨tree, parsed, origin, -⟩ := ofFormula_eq_ok made
      cases means with
      | formula origin' parsed' =>
          rw [origin] at origin'
          cases origin'
          obtain rfl := Except.ok.inj (parsed.symm.trans parsed')
          exact .inl ⟨text, tree, made, parsed, rfl⟩
      | number origin' =>
          rw [origin] at origin'
          cases origin'
  | @number count number made =>
      obtain ⟨n, -, -, -, origin⟩ := ofNumber_eq_ok made
      cases means with
      | formula origin' =>
          rw [origin] at origin'
          cases origin'
      | number origin' =>
          have same := origin.symm.trans origin'
          cases same
          exact .inr ⟨count, number, made, rfl⟩

/-- Where the variables of a function that was made have values, evaluation finds what the
function means. A function that came from a number wants truth values, and none for other
variables. -/
theorem evaluate_of_bound (made : f.Made) (means : f.Means meaning)
    (bound : ∀ x ∈ f.names, assignment.valuation x = some (v x))
    (known : f.IsNumbered → ∀ pair ∈ assignment, pair.1 ∈ f.names ∧ pair.2 = .truth (v pair.1)) :
    f.evaluate assignment = .ok (meaning v) := by
  rcases made.eq_of_means means with ⟨text, tree, made, parsed, rfl⟩ | ⟨count, number, made, rfl⟩
  · exact evaluate_formula made parsed bound
  · obtain ⟨n, -, -, -, origin⟩ := ofNumber_eq_ok made
    refine evaluate_number made (fun pair listed => ?_) fun x mem unbound =>
      absurd (Assignment.mem_of_valuation (bound x mem)) unbound
    obtain ⟨mem, value⟩ := known ⟨_, origin⟩ pair listed
    refine ⟨mem, ?_⟩
    rw [value]
    exact beq_self_eq_true _

/-- At the assignment of a valuation, evaluation finds **what the function means**, unless
the function lacks a variable that has a value. -/
theorem evaluate_eq (made : f.Made) (means : f.Means meaning) (covered : ∀ x ∈ f.names, x ∈ union)
    (complete : ¬ f.Lacks union) (v : String → Bool) :
    f.evaluate (Assignment.ofValuation union v) = .ok (meaning v) := by
  refine made.evaluate_of_bound means
    (fun x mem => Assignment.valuation_ofValuation (covered x mem) v) fun numbered pair listed => ?_
  rw [Assignment.ofValuation_eq] at listed
  obtain ⟨x, mem, rfl⟩ := List.mem_map.mp listed
  exact ⟨Decidable.byContradiction fun absent => complete ⟨numbered, x, mem, absent⟩, rfl⟩

/-- That no row goes with the assignment of a valuation can always be written. -/
theorem fault_noRow_ofValuation (union : List String) (v : String → Bool) :
    (ArgumentError.noRow (Assignment.ofValuation union v)).fault =
      .argument (.noRow (Assignment.ofValuation union v)) :=
  ArgumentError.fault_of_writable (Assignment.isWritable_ofTruth _)

/-- A function that lacks a variable that has a value cannot be evaluated. One from a number
finds no row for such an assignment. -/
theorem evaluate_of_lacks (made : f.Made) (lacks : f.Lacks union) (v : String → Bool) :
    f.evaluate (Assignment.ofValuation union v) =
      .error (.argument (.noRow (Assignment.ofValuation union v))) := by
  obtain ⟨⟨given, origin'⟩, x, mem, absent⟩ := lacks
  cases made with
  | formula made =>
      obtain ⟨tree, -, origin, -⟩ := ofFormula_eq_ok made
      rw [origin] at origin'
      cases origin'
  | number made =>
      have listed : (x, .truth (v x)) ∈ Assignment.ofValuation union v := by
        rw [Assignment.ofValuation_eq]
        exact List.mem_map_of_mem mem
      rw [evaluate_number_of_stray made listed (.inl absent), fault_noRow_ofValuation]

end Made

end BooleanFunction

end Junctor
