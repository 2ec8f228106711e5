import Junctor.BooleanFunction
import Junctor.Proofs.Conservation
import Junctor.Proofs.StackMachines
import Junctor.Validation

/-!
# What the Entry Points Accept

A text is parsed, validated and turned into a function along different ways: validation gives
every token its kind and counts operands, and the function is made by evaluating all rows of
its truth table. All of them accept the same texts, those whose tokens come out of the yard
as the postorder of a formula.

## Main results

* `Formula.parse_eq_ok_iff`: the texts that are parsed; `Formula.mem_names_iff_mem`: their
  variables.
* `isSuccess_validate_iff`, `validate_of_parse`: validation accepts the same texts.
* `BooleanFunction.ofFormula_of_parse`, `BooleanFunction.exists_parse_of_ofFormula`: so does
  making a function, which has the results of the formula.
* `BooleanFunction.ofFormula_eq_error_iff`: other texts with tokens have an error in the
  formula.
-/

namespace Junctor

/-! ### Parsing -/

/-- A text is parsed **exactly if** its tokens come out of the yard as the postorder of a
formula. -/
theorem Formula.parse_eq_ok_iff {text : String} {f : Formula} :
    Formula.parse text = .ok f ↔
      ∃ ts, tokens text = .ok ts ∧ toReversePolish ts = .ok f.postorder := by
  constructor
  · intro h
    obtain ⟨ts, read, h⟩ := bind_eq_ok_iff.mp h
    obtain ⟨polish, order, built⟩ := bind_eq_ok_iff.mp h
    exact ⟨ts, read, Formula.ofReversePolish_eq_ok_iff.mp built ▸ order⟩
  · rintro ⟨ts, read, order⟩
    refine bind_eq_ok_iff.mpr ⟨ts, read, bind_eq_ok_iff.mpr ⟨f.postorder, order, ?_⟩⟩
    exact Formula.ofReversePolish_eq_ok_iff.mpr rfl

/-- The variables of a formula are those of its tokens, be these in the order of the text or
in reverse Polish order. -/
theorem Formula.mem_names_iff_mem {f : Formula} {ts : List Token}
    (order : toReversePolish ts = .ok f.postorder) {x : String} : x ∈ f.names ↔ .var x ∈ ts := by
  rw [mem_names_iff, (toReversePolish_perm order).mem_iff, List.mem_filter]
  exact and_iff_left rfl

/-- A text that has tokens is not blank. -/
theorem isBlankText_of_tokens {text : String} {ts : List Token} (read : tokens text = .ok ts) :
    Text.isBlankText text = false := by
  cases blank : Text.isBlankText text with
  | false => rfl
  | true => rw [tokens, blank] at read; cases read

/-- The tokens of a text are what its scan finds, and their parentheses match. -/
theorem scan_of_tokens {text : String} {ts : List Token} (read : tokens text = .ok ts) :
    Lexer.scan [] [] text.toList = ts ∧ Lexer.checkParens 0 ts = .ok () := by
  rw [tokens, isBlankText_of_tokens read, if_neg Bool.false_ne_true] at read
  obtain ⟨_, matched, last⟩ := bind_eq_ok_iff.mp read
  cases last
  exact ⟨rfl, matched⟩

/-! ### Validation -/

/-- A token that a yard takes is of a kind. -/
theorem Yard.kind_of_step {yard next : Yard} {t : Token} (h : step yard t = .ok next) :
    ∃ kind, t.kind? = .ok kind := by
  cases t with
  | unknown text => cases h
  | _ => exact ⟨_, rfl⟩

/-- All tokens that a yard takes are of a kind. -/
theorem Yard.kind_of_run {yard next : Yard} {ts : List Token} (h : run yard ts = .ok next) :
    ∀ t ∈ ts, ∃ kind, t.kind? = .ok kind := by
  induction ts generalizing yard with
  | nil => intro t mem; cases mem
  | cons u ts ih =>
      rw [run, List.foldlM_cons] at h
      obtain ⟨middle, first, rest⟩ := bind_eq_ok_iff.mp h
      intro t mem
      rcases List.mem_cons.mp mem with rfl | mem
      · exact kind_of_step first
      · exact ih rest t mem

/-- The typed tokens of a text are its tokens with something added. -/
theorem map_fst_of_typedTokens {text : String} {ts : List Token}
    {typed : List (Token × Token.Kind)} (read : tokens text = .ok ts)
    (h : typedTokens text = .ok typed) : typed.map (·.1) = ts := by
  rw [typedTokens, read] at h
  have same := map_of_mapM (g := (·.1)) (h := id) h fun t _ pair made => by
    obtain ⟨kind, -, last⟩ := bind_eq_ok_iff.mp made
    cases last
    rfl
  rw [same, List.map_id]

/-- The checks pass exactly the texts that are parsed, and find the postorder. -/
theorem check_eq_ok_iff {text : String} {finding : Finding} :
    check text = .ok finding ↔ ∃ f typed, Formula.parse text = .ok f ∧
      typedTokens text = .ok typed ∧ finding = .accepted typed f.postorder := by
  constructor
  · intro h
    obtain ⟨typed, kinds, h⟩ := bind_eq_ok_iff.mp h
    obtain ⟨polish, order, h⟩ := bind_eq_ok_iff.mp h
    obtain ⟨_, depth, last⟩ := bind_eq_ok_iff.mp h
    obtain ⟨ts, read, -⟩ := bind_eq_ok_iff.mp kinds
    obtain ⟨f, rfl⟩ := checkDepth_eq_ok_iff.mp depth
    rw [map_fst_of_typedTokens read kinds] at order
    cases last
    exact ⟨f, typed, Formula.parse_eq_ok_iff.mpr ⟨ts, read, order⟩, kinds, rfl⟩
  · rintro ⟨f, typed, parsed, kinds, rfl⟩
    obtain ⟨ts, read, order⟩ := Formula.parse_eq_ok_iff.mp parsed
    rw [← map_fst_of_typedTokens read kinds] at order
    refine bind_eq_ok_iff.mpr ⟨typed, kinds, bind_eq_ok_iff.mpr ⟨f.postorder, order, ?_⟩⟩
    exact bind_eq_ok_iff.mpr ⟨(), checkDepth_eq_ok_iff.mpr ⟨f, rfl⟩, rfl⟩

/-- The tokens of a text that is parsed all have kinds. -/
theorem exists_typedTokens_of_parse {text : String} {f : Formula}
    (h : Formula.parse text = .ok f) : ∃ typed, typedTokens text = .ok typed := by
  obtain ⟨ts, read, order⟩ := Formula.parse_eq_ok_iff.mp h
  obtain ⟨yard, ran, -⟩ := bind_eq_ok_iff.mp order
  rw [typedTokens, read]
  refine exists_mapM_eq_ok_iff.mpr fun t mem => ?_
  obtain ⟨kind, known⟩ := Yard.kind_of_run ran t mem
  exact ⟨(t, kind), bind_eq_ok_iff.mpr ⟨kind, known, rfl⟩⟩

/-- Validation of a text reports what the checks find. -/
theorem validate_text (text : String) :
    validate (.text text) =
      match check text with
      | .error cause => .failure (.text text) cause.message .error
      | .ok finding => { formula := .text text, finding } := rfl

/-- A text that is parsed is validated, and the report holds **the postorder of its
formula**. -/
theorem validate_of_parse {text : String} {f : Formula} (h : Formula.parse text = .ok f) :
    (validate (.text text)).isSuccess = true ∧ (validate (.text text)).polish = f.postorder := by
  obtain ⟨typed, kinds⟩ := exists_typedTokens_of_parse h
  rw [validate_text, check_eq_ok_iff.mpr ⟨f, typed, h, kinds, rfl⟩]
  exact ⟨rfl, rfl⟩

/-- Validation accepts **exactly the texts that are parsed**, although it builds no tree and
only counts the operands. -/
theorem isSuccess_validate_iff {text : String} :
    (validate (.text text)).isSuccess = true ↔ ∃ f, Formula.parse text = .ok f := by
  constructor
  · intro success
    cases found : check text with
    | error cause => rw [validate_text, found] at success; cases success
    | ok finding =>
        obtain ⟨f, typed, parsed, -, -⟩ := check_eq_ok_iff.mp found
        exact ⟨f, parsed⟩
  · rintro ⟨f, parsed⟩
    exact (validate_of_parse parsed).1

/-! ### Making functions -/

/-- Names that are put beside values have one of them. -/
theorem exists_lookup_zip {α : Type} {x : String} {names : List String} {values : List α}
    (mem : x ∈ names) (long : names.length ≤ values.length) :
    ∃ value, (names.zip values).lookup x = some value := by
  induction names generalizing values with
  | nil => cases mem
  | cons name names ih =>
      match values, long with
      | value :: values, long =>
          by_cases same : x = name
          · exact ⟨value, by simp [List.zip_cons_cons, same]⟩
          · have later : x ∈ names := (List.mem_cons.mp mem).resolve_left same
            obtain ⟨found, looked⟩ := ih later (Nat.le_of_succ_le_succ long)
            have other : (x == name) = false := beq_eq_false_iff_ne.mpr same
            exact ⟨found, by rw [List.zip_cons_cons, List.lookup_cons, other]; exact looked⟩

namespace BooleanFunction

/-- The variables of a row have values in it. -/
theorem lookup_row {x : String} {names : List String} (mem : x ∈ names) (index : Nat) :
    (names.zip (rowValues index names.length)).lookup x =
      some (((names.zip (rowValues index names.length)).lookup x).getD false) := by
  obtain ⟨value, found⟩ := exists_lookup_zip mem (Nat.le_of_eq (length_rowValues index _).symm)
  rw [found, Option.getD_some]

/-- The results of a postorder are the truth values of its formula in the rows. -/
theorem resultsOf_postorder {names : List String} {f : Formula} (all : ∀ x ∈ f.names, x ∈ names) :
    resultsOf names f.postorder = .ok ((List.range (2 ^ names.length)).map fun (index : Nat) =>
      f.eval fun x => ((names.zip (rowValues index names.length)).lookup x).getD false) := by
  refine mapM_eq_ok_map fun index _ => evaluate_postorder fun x mem => ?_
  exact lookup_row (all x (Formula.mem_names_iff.mpr mem)) index

/-- Only a postorder has results. -/
theorem exists_postorder_of_resultsOf {names : List String} {polish : List Token}
    {results : List Bool} (all : ∀ x, .var x ∈ polish → x ∈ names)
    (h : resultsOf names polish = .ok results) : ∃ f : Formula, polish = f.postorder := by
  have first : 0 ∈ List.range (2 ^ names.length) := List.mem_range.mpr (Nat.two_pow_pos _)
  obtain ⟨result, valued⟩ := exists_mapM_eq_ok_iff.mp ⟨results, h⟩ 0 first
  by_cases spelled : ∃ f : Formula, polish = f.postorder
  · exact spelled
  · obtain ⟨e, failed⟩ := evaluate_of_not_postorder
      (fun x mem => lookup_row (all x mem) 0) fun f same => spelled ⟨f, same⟩
    rw [failed] at valued
    cases valued

/-- The names of tokens, sorted, are those of the variables among them. -/
theorem mem_sortedNames_tokens {ts : List Token} {x : String} :
    x ∈ sortedNames (ts.filterMap Token.name?) ↔ .var x ∈ ts := by
  rw [mem_sortedNames, List.mem_filterMap]
  constructor
  · rintro ⟨t, mem, name⟩
    cases t <;> cases name
    exact mem
  · exact fun mem => ⟨_, mem, rfl⟩

/-- A text that has tokens gives the function that its tokens describe. -/
theorem ofFormula_of_tokens {text : String} {ts : List Token} (read : tokens text = .ok ts) :
    ofFormula text = (ofTokens text ts).mapError Fault.formula := by
  rw [ofFormula, isBlankText_of_tokens read, if_neg Bool.false_ne_true, read]
  rfl

/-- The variables of a function made from a formula are those of the tokens, sorted. -/
theorem names_of_ofFormula {text : String} {ts : List Token} {g : BooleanFunction}
    (read : tokens text = .ok ts) (made : ofFormula text = .ok g) :
    g.names = sortedNames (ts.filterMap Token.name?) := by
  rw [ofFormula_of_tokens read, mapError_eq_ok_iff] at made
  obtain ⟨polish, -, made⟩ := bind_eq_ok_iff.mp made
  obtain ⟨results, -, last⟩ := bind_eq_ok_iff.mp made
  cases last
  rfl

/-- A text that is parsed gives the function of its formula, with one result for each
valuation of its variables. -/
theorem ofFormula_of_parse {text : String} {f : Formula} (h : Formula.parse text = .ok f) :
    ∃ g, ofFormula text = .ok g ∧ g.origin = .formula text f.postorder ∧
      (∀ x, x ∈ g.names ↔ x ∈ f.names) ∧
      g.results = (List.range (2 ^ g.names.length)).map fun (index : Nat) =>
        f.eval fun x => ((g.names.zip (rowValues index g.names.length)).lookup x).getD false := by
  obtain ⟨ts, read, order⟩ := Formula.parse_eq_ok_iff.mp h
  have named : ∀ x, x ∈ sortedNames (ts.filterMap Token.name?) ↔ x ∈ f.names := fun _ =>
    mem_sortedNames_tokens.trans (Formula.mem_names_iff_mem order).symm
  have valued := resultsOf_postorder fun x => (named x).mpr
  have made : ofTokens text ts = .ok ⟨_, _, .formula text f.postorder⟩ :=
    bind_eq_ok_iff.mpr ⟨f.postorder, order, bind_eq_ok_iff.mpr ⟨_, valued, rfl⟩⟩
  exact ⟨_, (ofFormula_of_tokens read).trans (mapError_eq_ok_iff.mpr made), rfl, named, rfl⟩

/-- A function is made from no other text than one that is parsed. Even without variables
there is a row to be evaluated, and that succeeds on postorders only. -/
theorem exists_parse_of_ofFormula {text : String} {g : BooleanFunction}
    (h : ofFormula text = .ok g) : ∃ f, Formula.parse text = .ok f := by
  rw [ofFormula] at h
  split at h
  · cases h
  · obtain ⟨ts, read, h⟩ := bind_eq_ok_iff.mp (mapError_eq_ok_iff.mp h)
    obtain ⟨polish, order, h⟩ := bind_eq_ok_iff.mp h
    obtain ⟨results, valued, -⟩ := bind_eq_ok_iff.mp h
    have named : ∀ x, .var x ∈ polish → x ∈ sortedNames (ts.filterMap Token.name?) := fun _ mem =>
      mem_sortedNames_tokens.mpr (mem_of_mem_toReversePolish order mem)
    obtain ⟨f, rfl⟩ := exists_postorder_of_resultsOf named valued
    exact ⟨f, Formula.parse_eq_ok_iff.mpr ⟨ts, read, order⟩⟩

/-- Of a text with tokens a function is made **exactly if it is parsed**; otherwise there is
an error in the formula. -/
theorem ofFormula_eq_error_iff {text : String} {ts : List Token} (read : tokens text = .ok ts) :
    (∃ cause, ofFormula text = .error (.formula cause)) ↔ ¬ ∃ f, Formula.parse text = .ok f := by
  constructor
  · rintro ⟨cause, failed⟩ ⟨f, parsed⟩
    obtain ⟨g, made, -⟩ := ofFormula_of_parse parsed
    rw [failed] at made
    cases made
  · intro unparsed
    cases made : ofFormula text with
    | ok g => exact absurd (exists_parse_of_ofFormula made) unparsed
    | error fault =>
        rw [ofFormula_of_tokens read, mapError_eq_error_iff] at made
        obtain ⟨cause, -, rfl⟩ := made
        exact ⟨cause, rfl⟩

end BooleanFunction

end Junctor
