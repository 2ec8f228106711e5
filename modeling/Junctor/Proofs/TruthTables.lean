import Junctor.Proofs.BasisForm

/-!
# The Truth Tables of Functions

A truth table is filled in one way and a function is evaluated in another. The table of a
formula is filled by running its tokens once for each row, with the values of the row; the
table of a number is filled with its digits. Evaluation runs the tokens with whatever
assignment it is given, or looks for the first row that agrees with it. Both come to what the
function means, so that the value at an assignment stands in the row whose number has the
values of the assignment as its digits.

## Main results

* `BooleanFunction.getElem?_rows`, `BooleanFunction.length_rows`: the rows.
* `Row.index_ofIndex`: a row knows its number.
* `BooleanFunction.Made.getElem?_results`: the result in the row of a valuation.
* `BooleanFunction.Made.eq_results`: the results are found by their places.
* `BooleanFunction.Made.mem_rows_iff`: the rows are those of all valuations.
* `BooleanFunction.Made.represents`: the variables, the rows and the values of a function
  that was made.
-/

namespace Junctor

/-- Names beside their values are looked up. -/
theorem lookup_zip_map {α : Type} {names : List String} {x : String} (mem : x ∈ names)
    (value : String → α) : (names.zip (names.map value)).lookup x = some (value x) := by
  rw [← List.map_prod_left_eq_zip, lookup_map_pair, if_pos mem]

/-- In bindings of names that differ every binding is looked up. -/
theorem lookup_of_mem {α : Type} {bindings : List (String × α)}
    (distinct : (bindings.map Prod.fst).Nodup) {x : String} {value : α}
    (mem : (x, value) ∈ bindings) : bindings.lookup x = some value := by
  obtain ⟨before, after, rfl⟩ := List.append_of_mem mem
  refine List.lookup_eq_some_iff.mpr ⟨before, after, rfl, fun pair listed => ?_⟩
  rw [List.map_append, List.nodup_append] at distinct
  have other : pair.1 ≠ x :=
    distinct.2.2 _ (List.mem_map_of_mem listed) x (by simp)
  simpa using other.symm

/-- A row over names that differ binds them to the values beside them. -/
theorem Row.bindings_eq_zip {row : Row} (distinct : row.names.Nodup)
    (long : row.values.length = row.names.length) : row.bindings = row.names.zip row.values := by
  refine collect_of_nodup ?_
  rwa [List.map_fst_zip (Nat.le_of_eq long.symm)]

/-- A row of a truth table knows its number, since it can be read from the values. -/
theorem Row.index_ofIndex {names : List String} {index : Nat} (below : index < 2 ^ names.length)
    (result : Bool) : (Row.ofIndex names index result).index = index :=
  rowIndex_rowValues_of_lt below

namespace BooleanFunction

variable {f : BooleanFunction} {meaning : (String → Bool) → Bool}

/-! ### Rows -/

/-- There are **as many rows as results**. -/
theorem length_rows (f : BooleanFunction) : f.rows.length = f.results.length := by
  rw [rows, List.length_map, List.length_zipIdx]

/-- A row has **the result in its place**. -/
theorem getElem?_rows (f : BooleanFunction) (index : Nat) :
    f.rows[index]? = f.results[index]?.map (Row.ofIndex f.names index) := by
  simp only [rows, List.getElem?_map, List.getElem?_zipIdx, Option.map_map, Nat.zero_add]
  rfl

/-- The row at a position that is there is read. -/
theorem rowAt_of_getElem? {index : Nat} {row : Row} (there : f.rows[index]? = some row) :
    f.rowAt index = .ok row := by
  have whole : (if (index : Int) < 0 then (index : Int) + f.rows.length else index) = index :=
    if_neg (by omega)
  simp only [rowAt, whole, Int.toNat_natCast, there]
  rw [if_neg (by omega)]

namespace Made

/-- The result in the row of a valuation is **what the function means** there, be it from a
formula or from a number. -/
theorem getElem?_results (made : f.Made) (means : f.Means meaning) (v : String → Bool) :
    f.results[rowNumber (f.names.map v)]? = some (meaning v) := by
  have below := made.rowNumber_lt_length v
  rw [List.getElem?_eq_getElem below]
  refine congrArg some ?_
  rcases made.eq_of_means means with ⟨text, tree, made, parsed, rfl⟩ | ⟨count, number, made, rfl⟩
  · obtain ⟨g, same, -, named, results⟩ := ofFormula_of_parse parsed
    obtain rfl := Except.ok.inj (made.symm.trans same)
    rw [List.getElem_of_eq results, List.getElem_map, List.getElem_range, rowValues_rowNumber_map]
    refine Formula.eval_congr fun x mem => ?_
    rw [lookup_zip_map ((named x).mpr mem), Option.getD_some]
  · exact getElem_results_number made below

/-- As many truth values as there are rows **are the results**, if in the place of each row
stands what the function means there. -/
theorem eq_results (made : f.Made) (means : f.Means meaning) {column : List Bool}
    (long : column.length = 2 ^ f.names.length)
    (values : ∀ v, column[rowNumber (f.names.map v)]? = some (meaning v)) : column = f.results := by
  refine List.ext_getElem? fun index => ?_
  by_cases below : index < 2 ^ f.names.length
  · obtain ⟨v, rfl⟩ := exists_rowNumber_eq made.nodup below
    rw [values, made.getElem?_results means]
  · rw [List.getElem?_eq_none (long ▸ Nat.not_lt.mp below),
      List.getElem?_eq_none (made.length_results ▸ Nat.not_lt.mp below)]

/-- The row of a valuation stands in its place. -/
theorem getElem?_rows_rowNumber (made : f.Made) (means : f.Means meaning) (v : String → Bool) :
    f.rows[rowNumber (f.names.map v)]? =
      some (Row.ofIndex f.names (rowNumber (f.names.map v)) (meaning v)) := by
  rw [getElem?_rows, made.getElem?_results means, Option.map_some]

/-- The rows of a function that was made are those of all valuations, and each row has the
result that belongs to its values. -/
theorem mem_rows_iff (made : f.Made) (means : f.Means meaning) {row : Row} :
    row ∈ f.rows ↔ ∃ v, row = Row.ofIndex f.names (rowNumber (f.names.map v)) (meaning v) := by
  rw [List.mem_iff_getElem?]
  constructor
  · rintro ⟨index, there⟩
    rw [getElem?_rows] at there
    obtain ⟨result, found, rfl⟩ := Option.map_eq_some_iff.mp there
    have below : index < 2 ^ f.names.length :=
      made.length_results ▸ (List.getElem?_eq_some_iff.mp found).1
    obtain ⟨v, rfl⟩ := exists_rowNumber_eq made.nodup below
    rw [made.getElem?_results means] at found
    exact ⟨v, by rw [Option.some.inj found]⟩
  · rintro ⟨v, rfl⟩
    exact ⟨_, made.getElem?_rows_rowNumber means v⟩

/-! ### Rows and values -/

/-- The row whose number the values of the variables are has what the function means there. -/
theorem exists_rowAt (made : f.Made) (means : f.Means meaning) (v : String → Bool) :
    ∃ row, f.rowAt (rowIndex (f.names.map fun x => .truth (v x))) = .ok row ∧
      row.result = .truth (meaning v) := by
  rw [rowIndex_map_truth]
  exact ⟨_, rowAt_of_getElem? (made.getElem?_rows_rowNumber means v), rfl⟩

/-- The value at an assignment stands in the row of its values. -/
theorem evaluate_eq_row (made : f.Made) {assignment : Assignment} {v : String → Bool}
    (distinct : (assignment.map Prod.fst).Nodup)
    (bound : ∀ x ∈ f.names, (x, .truth (v x)) ∈ assignment)
    (known : f.IsNumbered → ∀ x ∈ assignment.map Prod.fst, x ∈ f.names) :
    ∃ row b, f.rowAt (rowIndex (f.names.map fun x => .truth (v x))) = .ok row ∧
      row.result = .truth b ∧ f.evaluate assignment = .ok b := by
  obtain ⟨meaning, means⟩ := made.exists_means
  obtain ⟨row, there, result⟩ := made.exists_rowAt means v
  refine ⟨row, meaning v, there, result, ?_⟩
  refine made.evaluate_of_bound means (fun x mem => ?_) fun numbered pair listed => ?_
  · rw [Assignment.valuation, lookup_of_mem distinct (bound x mem)]
    rfl
  · have mem := known numbered pair.1 (List.mem_map_of_mem listed)
    have first := lookup_of_mem distinct (bound pair.1 mem)
    rw [lookup_of_mem distinct listed] at first
    exact ⟨mem, Option.some.inj first⟩

/-- A function that was made **represents what it was made from**. Its variables differ, and
those of a formula are the variables of what was parsed, strictly sorted. Its truth table has
2^n rows, each with the variables of the function, n values and its own number. Where every
variable is bound to a truth value, and for a function from a number nothing else is bound,
the value is the result in the row whose number the values are. -/
theorem represents (made : f.Made) :
    f.names.Nodup ∧
    (∀ text polish, f.origin = .formula text polish →
      f.names.Pairwise (· < ·) ∧ ∃ tree, Formula.parse text = .ok tree ∧ f.names = tree.names) ∧
    f.rows.length = 2 ^ f.variableCount ∧
    (∀ (i : Nat) (row : Row), f.rows[i]? = some row →
      row.names = f.names ∧ row.values.length = f.variableCount ∧ row.index = i) ∧
    ∀ (assignment : Assignment) (v : String → Bool), (assignment.map Prod.fst).Nodup →
      (∀ x ∈ f.names, (x, .truth (v x)) ∈ assignment) →
      (f.IsNumbered → ∀ x ∈ assignment.map Prod.fst, x ∈ f.names) →
      ∃ row b, f.rowAt (rowIndex (f.names.map fun x => .truth (v x))) = .ok row ∧
        row.result = .truth b ∧ f.evaluate assignment = .ok b := by
  refine ⟨made.nodup, fun text polish origin => ?_, ?_, fun i row there => ?_,
    fun assignment v distinct bound known => made.evaluate_eq_row distinct bound known⟩
  · cases made with
    | formula made =>
        obtain ⟨tree, parsed, origin', sorted, -⟩ := ofFormula_eq_ok made
        rw [origin'] at origin
        cases origin
        exact ⟨sorted, tree, parsed, names_of_parse parsed made⟩
    | number made =>
        obtain ⟨n, -, -, -, origin'⟩ := ofNumber_eq_ok made
        rw [origin'] at origin
        cases origin
  · rw [length_rows, made.length_results, variableCount]
  · rw [getElem?_rows] at there
    obtain ⟨result, found, rfl⟩ := Option.map_eq_some_iff.mp there
    have below : i < 2 ^ f.names.length :=
      made.length_results ▸ (List.getElem?_eq_some_iff.mp found).1
    refine ⟨rfl, ?_, Row.index_ofIndex below result⟩
    rw [Row.ofIndex, List.length_map, length_rowValues, variableCount]

/-- The function of `b → a` has the variables `a` and `b`, and where `a` is false and `b` is
true its value stands in the row with the number 1, in whatever order they are bound and
whatever `c` is. -/
theorem represents_implication :
    ∃ f, ofFormula "b → a" = .ok f ∧ f.names = ["a", "b"] ∧ f.rows.length = 4 ∧
      ∃ row b, f.rowAt 1 = .ok row ∧ row.result = .truth b ∧
        f.evaluate [("c", .int 7), ("b", .truth true), ("a", .truth false)] = .ok b := by
  have parsed : Formula.parse "b → a" = .ok (.binary .implies (.var "b") (.var "a")) :=
    eq_ok_of_toOption (by decide +kernel)
  obtain ⟨f, made, origin, -⟩ := ofFormula_of_parse parsed
  have names : f.names = ["a", "b"] := (names_of_parse parsed made).trans (by decide)
  obtain ⟨-, -, length, -, values⟩ := represents (.formula made)
  have value := values [("c", .int 7), ("b", .truth true), ("a", .truth false)] (· == "b")
    (by decide) (by rw [names]; simp) fun ⟨given, numbered⟩ => nomatch origin.symm.trans numbered
  rw [names] at value
  rw [variableCount, names] at length
  exact ⟨f, made, names, length, value⟩

end Made

end BooleanFunction

end Junctor
