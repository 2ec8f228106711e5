import Junctor.Proofs.FunctionNumbers
import Junctor.Text.Split

/-!
# Printed Truth Tables Are Read Back

The header of a printed truth table and its other lines are written in the same way: some
texts with spaces in between, a bar, and one more sign. The texts are names in the header and
cells in the other lines, and a cell is filled up with spaces to the length of its name. The
columns add up names of any lengths, but as the texts of all lines are of the same lengths,
so are the lines, and what stands at the end of a cell stands under the end of its name.

Names hold no spaces and no line breaks, so that the lines of a table are found again, and in
each of them the words: the names or the digits, the bar, and the last sign. From these the
table is read back. A table without variables is no exception, because its lines begin with
the space in front of the bar.

## Main results

* `columnEnd`: where a text among others ends; `columnEnd_congr`: this depends on the lengths
  only.
* `exists_columnEnd`: in cells nothing but the ends of columns is filled.
* `BooleanFunction.Aligned`: how the line of a row stands under the header.
* `BooleanFunction.readTable`: a printed table read back.
* `BooleanFunction.printed_table_lossless`: the layout of a table, and what it determines.
-/

namespace Junctor

/-! ### Columns -/

/-- The place of the **last character** of a text among texts with spaces in between. -/
def columnEnd : List String → Nat → Nat
  | [], _ => 0
  | text :: _, 0 => text.length - 1
  | text :: texts, j + 1 => text.length + 1 + columnEnd texts j

/-- Two or more texts with spaces in between, character by character. -/
theorem toList_intercalate_cons_cons (text next : String) (texts : List String) :
    (" ".intercalate (text :: next :: texts)).toList =
      text.toList ++ ' ' :: (" ".intercalate (next :: texts)).toList := by
  rw [String.intercalate_cons_cons, String.toList_append, String.toList_append, List.append_assoc]
  rfl

variable {texts cells : List String}

/-- With spaces in between, texts of the same lengths are of the same length. -/
theorem length_intercalate_congr (same : texts.map String.length = cells.map String.length) :
    (" ".intercalate texts).length = (" ".intercalate cells).length := by
  induction texts generalizing cells with
  | nil => rw [List.map_eq_nil_iff.mp same.symm]
  | cons text texts ih =>
      obtain ⟨cell, cells, rfl, here, others⟩ := List.map_eq_cons_iff.mp same.symm
      have rest := ih others.symm
      match texts, cells, others with
      | [], [], _ => simpa using here.symm
      | text' :: texts, cell' :: cells, _ =>
          rw [String.intercalate_cons_cons, String.intercalate_cons_cons, String.length_append,
            String.length_append, String.length_append, String.length_append, here, rest]

/-- Texts of the same lengths end at the same places, whatever they say. This is why the
columns of a table are aligned. -/
theorem columnEnd_congr (same : texts.map String.length = cells.map String.length) (j : Nat) :
    columnEnd texts j = columnEnd cells j := by
  induction texts generalizing cells j with
  | nil => rw [List.map_eq_nil_iff.mp same.symm]
  | cons text texts ih =>
      obtain ⟨cell, cells, rfl, here, others⟩ := List.map_eq_cons_iff.mp same.symm
      cases j with
      | zero => rw [columnEnd, columnEnd, here]
      | succ j => rw [columnEnd, columnEnd, here, ih others.symm]

/-- A text among others ends at its place. -/
theorem exists_append_columnEnd {j : Nat} {text : String} (there : texts[j]? = some text)
    (nonempty : text ≠ "") :
    ∃ front back, (" ".intercalate texts).toList = front ++ text.toList ++ back ∧
      (front ++ text.toList).length = columnEnd texts j + 1 := by
  induction texts generalizing j with
  | nil => cases there
  | cons first texts ih =>
      cases j with
      | zero =>
          obtain rfl : first = text := Option.some.inj there
          have long : 0 < first.length :=
            Nat.pos_of_ne_zero (mt String.length_eq_zero_iff.mp nonempty)
          have ends : ([] ++ first.toList).length = columnEnd (first :: texts) 0 + 1 := by
            rw [List.nil_append, String.length_toList, columnEnd]
            omega
          cases texts with
          | nil => exact ⟨[], [], by simp, ends⟩
          | cons next texts => exact ⟨[], _, toList_intercalate_cons_cons first next texts, ends⟩
      | succ j =>
          obtain ⟨front, back, whole, ends⟩ := ih there
          cases texts with
          | nil => cases there
          | cons next texts =>
              refine ⟨first.toList ++ ' ' :: front, back, ?_, ?_⟩
              · rw [toList_intercalate_cons_cons, whole]
                simp
              · rw [columnEnd, Nat.add_assoc, ← ends]
                simp [Nat.add_assoc, Nat.add_comm 1, String.length_toList]

/-- In cells that are filled at their ends only, nothing else is filled: a place that is not
blank is the end of a cell. -/
theorem exists_columnEnd
    (filled : ∀ cell ∈ cells, ∀ p c, cell.toList[p]? = some c → c ≠ ' ' → p + 1 = cell.length)
    {p : Nat} {c : Char} (there : (" ".intercalate cells).toList[p]? = some c) (other : c ≠ ' ') :
    ∃ j < cells.length, p = columnEnd cells j := by
  induction cells generalizing p with
  | nil => simp at there
  | cons cell cells ih =>
      obtain ⟨here, others⟩ := List.forall_mem_cons.mp filled
      have first (inside : cell.toList[p]? = some c) : ∃ j < (cell :: cells).length,
          p = columnEnd (cell :: cells) j := by
        have ends := here p c inside other
        exact ⟨0, Nat.succ_pos _, by rw [columnEnd]; omega⟩
      cases cells with
      | nil =>
          rw [String.intercalate_singleton] at there
          exact first there
      | cons next cells =>
          rw [toList_intercalate_cons_cons, List.getElem?_append] at there
          split at there
          · exact first there
          · next behind =>
              obtain ⟨q, place⟩ := Nat.exists_eq_add_of_le (Nat.not_lt.mp behind)
              rw [String.length_toList] at place
              rw [place, String.length_toList, Nat.add_sub_cancel_left] at there
              cases q with
              | zero => exact absurd (Option.some.inj there).symm other
              | succ q =>
                  obtain ⟨j, within, rfl⟩ := ih others there
                  refine ⟨j + 1, Nat.succ_lt_succ within, ?_⟩
                  rw [place, columnEnd]
                  omega

/-! ### Lines -/

/-- Texts with spaces in between, a bar and a sign: a line of a printed table. -/
def barred (texts : List String) (sign : Char) : String :=
  " ".intercalate texts ++ " | " ++ String.singleton sign

/-- The bar and the sign stand behind the texts. -/
theorem toList_barred (texts : List String) (sign : Char) :
    (barred texts sign).toList = (" ".intercalate texts).toList ++ [' ', '|', ' ', sign] := by
  rw [barred, String.toList_append, String.toList_append, String.toList_singleton,
    List.append_assoc]
  rfl

/-- A line is four characters longer than the texts. -/
theorem length_barred (texts : List String) (sign : Char) :
    (barred texts sign).length = (" ".intercalate texts).length + 4 := by
  rw [← String.length_toList, toList_barred, List.length_append, String.length_toList]
  rfl

/-- The words of a line are those of the texts, the bar and the sign. -/
theorem words_barred (texts : List String) {sign : Char} (visible : sign ≠ ' ') :
    Text.words (barred texts sign) = texts.flatMap Text.words ++ ["|", String.singleton sign] := by
  have pieces : barred texts sign =
      " ".intercalate texts ++ " " ++ ("|" ++ " " ++ String.singleton sign) := by
    rw [← String.toList_inj, toList_barred]
    simp
  have last : Text.words (String.singleton sign) = [String.singleton sign] :=
    Text.words_of_not_mem (by simp) (by simpa using visible.symm)
  have bar : Text.words "|" = ["|"] := Text.words_of_not_mem (by decide) (by decide)
  rw [pieces, Text.words_append, Text.words_append, Text.words_intercalate, last, bar]
  rfl

/-- A character that stands in no text and is neither the bar nor a space stands in no line. -/
theorem not_mem_barred {sign c : Char} (free : ∀ text ∈ texts, c ∉ text.toList) (noSpace : c ≠ ' ')
    (noBar : c ≠ '|') (other : c ≠ sign) : c ∉ (barred texts sign).toList := by
  have inside : c ∉ (" ".intercalate texts).toList := by
    induction texts with
    | nil => simp
    | cons text texts ih =>
        obtain ⟨here, others⟩ := List.forall_mem_cons.mp free
        cases texts with
        | nil => simpa using here
        | cons next texts =>
            rw [toList_intercalate_cons_cons, List.mem_append, List.mem_cons, not_or, not_or]
            exact ⟨here, noSpace, ih others⟩
  rw [toList_barred, List.mem_append, not_or]
  exact ⟨inside, by simp [noSpace, noBar, other]⟩

namespace BooleanFunction

variable {f g : BooleanFunction} {names : List String} {values : List Bool}

/-! ### Cells -/

/-- A cell is filled at its end, with the digit of the value. -/
theorem toList_tableCell (name : String) (b : Bool) :
    (tableCell name (.truth b)).toList = List.replicate (name.length - 1) ' ' ++ [digitOf b] := by
  simp only [tableCell, Cell.toInt, toString_toInt, String.toList_append, String.toList_ofList,
    String.toList_singleton, String.length_singleton]

/-- A cell is as long as the name at the head of its column. -/
theorem length_tableCell {name : String} (nonempty : name ≠ "") (b : Bool) :
    (tableCell name (.truth b)).length = name.length := by
  have long : 0 < name.length := Nat.pos_of_ne_zero (mt String.length_eq_zero_iff.mp nonempty)
  rw [← String.length_toList, toList_tableCell, List.length_append, List.length_replicate,
    List.length_singleton]
  omega

/-- Nothing but the last character of a cell is filled. -/
theorem filled_tableCell {name : String} (nonempty : name ≠ "") {b : Bool} {p : Nat} {c : Char}
    (there : (tableCell name (.truth b)).toList[p]? = .some c) (other : c ≠ ' ') :
    p + 1 = (tableCell name (.truth b)).length := by
  have within := (List.getElem?_eq_some_iff.mp there).1
  rw [String.length_toList] at within
  rw [toList_tableCell, List.getElem?_append] at there
  split at there
  · rw [List.getElem?_replicate] at there
    split at there
    · exact absurd (Option.some.inj there).symm other
    · cases there
  · next behind =>
      rw [List.length_replicate] at behind
      rw [length_tableCell nonempty] at within ⊢
      omega

/-- The only word of a cell is the digit of the value. -/
theorem words_tableCell (name : String) (b : Bool) :
    Text.words (tableCell name (.truth b)) = [String.singleton (digitOf b)] := by
  have digit : ' ' ∉ (String.singleton (digitOf b)).toList := by cases b <;> decide
  have pieces : tableCell name (.truth b) =
      String.ofList (List.replicate (name.length - 1) ' ') ++ String.singleton (digitOf b) := by
    rw [← String.toList_inj, toList_tableCell]
    simp
  rw [pieces, Text.words_replicate_append, Text.words_of_not_mem (by simp) digit]

/-- The cells of a row, one below each name. -/
def tableCells (names : List String) (values : List Bool) : List String :=
  (names.zip values).map fun (name, b) => tableCell name (.truth b)

/-- The line of a row is made of its cells, the bar and the digit of the result. -/
theorem tableLine_eq_barred (names : List String) (values : List Bool) (result : Bool) :
    tableLine ⟨names, values.map .truth, .truth result⟩ =
      barred (tableCells names values) (digitOf result) := by
  have digit : toString (Cell.truth result).toInt = String.singleton (digitOf result) :=
    toString_toInt result
  rw [tableLine, barred, tableCells, digit, List.zip_map_right, List.map_map]
  rfl

/-- The cells of a row are as long as the names. -/
theorem map_length_tableCells (nonempty : ∀ x ∈ names, x ≠ "")
    (long : values.length = names.length) :
    (tableCells names values).map String.length = names.map String.length := by
  have firsts : (names.zip values).map Prod.fst = names :=
    List.map_fst_zip (Nat.le_of_eq long.symm)
  conv => rhs; rw [← firsts, List.map_map]
  rw [tableCells, List.map_map]
  refine List.map_congr_left ?_
  rintro ⟨name, b⟩ mem
  simp only [Function.comp]
  exact length_tableCell (nonempty name (List.of_mem_zip mem).1) b

/-- Nothing is filled in the cells of a row but their ends. -/
theorem filled_tableCells (nonempty : ∀ x ∈ names, x ≠ "") :
    ∀ cell ∈ tableCells names values, ∀ p c,
      cell.toList[p]? = some c → c ≠ ' ' → p + 1 = cell.length := by
  intro cell mem p c there other
  obtain ⟨⟨name, b⟩, listed, rfl⟩ := List.mem_map.mp mem
  exact filled_tableCell (nonempty name (List.of_mem_zip listed).1) there other

/-- The words of the cells of a row are the digits of the values. -/
theorem flatMap_words_tableCells (long : values.length = names.length) :
    (tableCells names values).flatMap Text.words =
      values.map fun b => String.singleton (digitOf b) := by
  have seconds : (names.zip values).map Prod.snd = values := List.map_snd_zip (Nat.le_of_eq long)
  conv => rhs; rw [← seconds, List.map_map]
  rw [tableCells, List.flatMap_map, List.map_eq_flatMap]
  simp only [words_tableCell, Function.comp_def]

/-! ### The layout -/

/-- The header of a table over some variables. -/
def tableHeader (names : List String) : String := barred names 'f'

/-- The line of a row is **aligned** with a header over the names of its variables. -/
structure Aligned (names : List String) (header : String) (values : List Bool) (result : Bool)
    (line : String) : Prop where
  /-- The line is as long as the header. -/
  length : line.length = header.length
  /-- Each value stands under the last character of its name. -/
  value : ∀ j b, values[j]? = some b → line.toList[columnEnd names j]? = some (digitOf b)
  /-- The bar stands under the bar. -/
  bar : header.toList[header.length - 3]? = some '|' ∧ line.toList[header.length - 3]? = some '|'
  /-- The result stands under the `f`. -/
  result : header.toList[header.length - 1]? = some 'f' ∧
    line.toList[header.length - 1]? = some (digitOf result)
  /-- Everything else is blank. -/
  blank : ∀ p c, line.toList[p]? = some c → c ≠ ' ' →
    (∃ j < names.length, p = columnEnd names j) ∨ p = header.length - 3 ∨ p = header.length - 1

/-- The bar and the sign of a line stand at its end. -/
theorem getElem?_barred (texts : List String) (sign : Char) :
    (barred texts sign).toList[(barred texts sign).length - 3]? = some '|' ∧
      (barred texts sign).toList[(barred texts sign).length - 1]? = some sign := by
  rw [length_barred, toList_barred, ← String.length_toList]
  constructor
  · rw [List.getElem?_append_right (by omega)]
    simp [Nat.add_sub_assoc]
  · rw [List.getElem?_append_right (by omega)]
    simp

/-- A name ends at its place in the header. -/
theorem exists_append_tableHeader {j : Nat} {name : String} (there : names[j]? = some name)
    (nonempty : name ≠ "") :
    ∃ front back, (tableHeader names).toList = front ++ name.toList ++ back ∧
      (front ++ name.toList).length = columnEnd names j + 1 := by
  obtain ⟨front, back, whole, ends⟩ := exists_append_columnEnd there nonempty
  exact ⟨front, back ++ [' ', '|', ' ', 'f'],
    by rw [tableHeader, toList_barred, whole, List.append_assoc], ends⟩

/-- A cell ends at the place at which its name ends. -/
theorem getElem?_tableCells (nonempty : ∀ x ∈ names, x ≠ "") (long : values.length = names.length)
    {j : Nat} {b : Bool} (there : values[j]? = some b) (sign : Char) :
    (barred (tableCells names values) sign).toList[columnEnd names j]? = some (digitOf b) := by
  obtain ⟨name, named⟩ : ∃ name, names[j]? = some name := by
    refine ⟨_, List.getElem?_eq_getElem ?_⟩
    exact long ▸ (List.getElem?_eq_some_iff.mp there).1
  have pair : (names.zip values)[j]? = some (name, b) :=
    List.getElem?_zip_eq_some.mpr ⟨named, there⟩
  have cell : (tableCells names values)[j]? = some (tableCell name (.truth b)) := by
    rw [tableCells, List.getElem?_map, pair, Option.map_some]
  have filled : tableCell name (.truth b) ≠ "" := by
    rw [← String.toList_inj.ne, toList_tableCell]
    simp
  obtain ⟨front, back, whole, ends⟩ := exists_append_columnEnd cell filled
  rw [columnEnd_congr (map_length_tableCells nonempty long), toList_tableCell, ← List.append_assoc,
    List.length_append, List.length_singleton, Nat.add_right_cancel_iff] at ends
  rw [toList_barred, whole, toList_tableCell, ← ends]
  simp

/-- The line of a row is aligned with the header. -/
theorem aligned_tableLine (nonempty : ∀ x ∈ names, x ≠ "") (long : values.length = names.length)
    (result : Bool) :
    Aligned names (tableHeader names) values result
      (barred (tableCells names values) (digitOf result)) := by
  have same := map_length_tableCells nonempty long
  have width : (barred (tableCells names values) (digitOf result)).length =
      (tableHeader names).length := by
    rw [tableHeader, length_barred, length_barred, length_intercalate_congr same]
  obtain ⟨bar, last⟩ := getElem?_barred (tableCells names values) (digitOf result)
  obtain ⟨barAbove, lastAbove⟩ := getElem?_barred names 'f'
  refine ⟨width, fun j b there => getElem?_tableCells nonempty long there _,
    ⟨barAbove, width ▸ bar⟩, ⟨lastAbove, width ▸ last⟩, fun p c there other => ?_⟩
  rw [← width, length_barred]
  rw [toList_barred, List.getElem?_append] at there
  split at there
  · obtain ⟨j, within, place⟩ := exists_columnEnd (filled_tableCells nonempty) there other
    rw [← List.length_map (f := String.length), same, List.length_map] at within
    exact .inl ⟨j, within, place.trans (columnEnd_congr same j)⟩
  · next behind =>
      obtain ⟨q, rfl⟩ := Nat.exists_eq_add_of_le (Nat.not_lt.mp behind)
      rw [Nat.add_sub_cancel_left] at there
      rw [String.length_toList]
      match q, there with
      | 0, there => exact absurd (Option.some.inj there).symm other
      | 1, _ => exact .inr (.inl (by omega))
      | 2, there => exact absurd (Option.some.inj there).symm other
      | 3, _ => exact .inr (.inr (by omega))

/-! ### Reading back -/

/-- A line of a table read back: the words in front of the bar, and the word behind it. -/
def readLine (line : String) : List String × String :=
  ((Text.words line).dropLast.dropLast, (Text.words line).getLastD "")

/-- The line of a row read back, where the names of the variables are known. -/
def readRow (names : List String) (line : String) : Row where
  names := names
  values := (readLine line).1.map fun digit => .truth (digit == "1")
  result := .truth ((readLine line).2 == "1")

/-- A printed table **read back**: the names of the variables in the first line, and the rows
in the lines below it. -/
def readTable (text : String) : List String × List Row :=
  match Text.split "\n" text with
  | [] => ([], [])
  | header :: lines => ((readLine header).1, lines.map (readRow (readLine header).1))

/-- A line of texts, a bar and a sign is read back as the words of these. -/
theorem readLine_barred (texts : List String) {sign : Char} (visible : sign ≠ ' ') :
    readLine (barred texts sign) = (texts.flatMap Text.words, String.singleton sign) := by
  have pieces : texts.flatMap Text.words ++ ["|", String.singleton sign] =
      texts.flatMap Text.words ++ ["|"] ++ [String.singleton sign] :=
    List.append_cons _ _ _
  rw [readLine, words_barred texts visible, pieces, List.dropLast_concat, List.dropLast_concat,
    List.getLastD_concat]

/-- A digit is read back. -/
theorem digit_beq_one (b : Bool) : (String.singleton (digitOf b) == "1") = b := by
  cases b <;> decide

/-- The line of a row is read back. -/
theorem readRow_tableLine (long : values.length = names.length) (result : Bool) :
    readRow names (barred (tableCells names values) (digitOf result)) =
      ⟨names, values.map .truth, .truth result⟩ := by
  have visible : digitOf result ≠ ' ' := by cases result <;> decide
  rw [readRow, readLine_barred _ visible, flatMap_words_tableCells long]
  simp only [List.map_map, Function.comp_def, digit_beq_one]

/-- The header is read back, if the names are words. -/
theorem readLine_tableHeader (valid : ∀ x ∈ names, IsName x) :
    (readLine (tableHeader names)).1 = names := by
  have single : names.flatMap Text.words = names.flatMap fun x => [x] := by
    refine List.flatMap_congr fun x mem => ?_
    exact Text.words_of_not_mem (valid x mem).ne_empty
      (Text.not_mem_of_isWord (valid x mem).word (by decide))
  rw [tableHeader, readLine_barred names (by decide), single, List.flatMap_singleton']

/-! ### The main result -/

/-- The rows of a function have truth values beside its variables, and a truth value as
result. -/
theorem exists_of_mem_rows {row : Row} (mem : row ∈ f.rows) :
    ∃ (values : List Bool) (result : Bool), values.length = f.variableCount ∧
      row = ⟨f.names, values.map .truth, .truth result⟩ := by
  obtain ⟨⟨result, index⟩, -, rfl⟩ := List.mem_map.mp mem
  exact ⟨rowValues index f.names.length, result, length_rowValues _ _, rfl⟩

/-- The header of a table is its first line. -/
theorem table_eq_cons (f : BooleanFunction) :
    f.table = tableHeader f.names :: f.rows.map tableLine := by
  rw [table, tableHeader, barred, String.append_assoc]
  rfl

namespace Made

/-- The variables of a function that was made have names that are not empty. -/
theorem ne_empty_of_mem_names (made : f.Made) : ∀ x ∈ f.names, x ≠ "" :=
  fun _ mem => (made.isName mem).ne_empty

/-- No line of a table is broken. -/
theorem newline_not_mem_table (made : f.Made) : ∀ line ∈ f.table, '\n' ∉ line.toList := by
  rw [table_eq_cons, List.forall_mem_cons, List.forall_mem_map]
  refine ⟨not_mem_barred (fun x mem => ?_) (by decide) (by decide) (by decide), fun row mem => ?_⟩
  · exact Text.not_mem_of_isWord (made.isWord mem) (by decide)
  · obtain ⟨values, result, -, rfl⟩ := exists_of_mem_rows mem
    rw [tableLine_eq_barred]
    refine not_mem_barred (fun cell listed => ?_) (by decide) (by decide)
      (by cases result <;> decide)
    obtain ⟨⟨name, b⟩, -, rfl⟩ := List.mem_map.mp listed
    rw [toList_tableCell]
    cases b <;> simp [digitOf]

/-- The lines of a printed table are found again. -/
theorem split_tableText (made : f.Made) : Text.split "\n" f.tableText = f.table :=
  Text.split_intercalate rfl (by rw [table_eq_cons]; exact List.cons_ne_nil _ _)
    made.newline_not_mem_table

/-- A printed table is read back. -/
theorem readTable_tableText (made : f.Made) : readTable f.tableText = (f.names, f.rows) := by
  have rows : (f.rows.map tableLine).map (readRow f.names) = f.rows := by
    rw [List.map_map]
    conv => rhs; rw [← List.map_id f.rows]
    refine List.map_congr_left fun row mem => ?_
    obtain ⟨values, result, long, rfl⟩ := exists_of_mem_rows mem
    rw [Function.comp, tableLine_eq_barred, readRow_tableLine long, id]
  rw [readTable, made.split_tableText, table_eq_cons]
  simp only [readLine_tableHeader fun x => made.isName, rows]

/-- All lines of a table are as long as its header. -/
theorem length_of_mem_table (made : f.Made) {line : String} (mem : line ∈ f.table) :
    line.length = (tableHeader f.names).length := by
  rw [table_eq_cons, List.mem_cons] at mem
  rcases mem with rfl | mem
  · rfl
  · obtain ⟨row, listed, rfl⟩ := List.mem_map.mp mem
    obtain ⟨values, result, long, rfl⟩ := exists_of_mem_rows listed
    rw [tableLine_eq_barred]
    exact (aligned_tableLine made.ne_empty_of_mem_names long result).length

/-- The line of a row stands behind the lines of the rows before it, aligned with the
header. -/
theorem exists_aligned (made : f.Made) {i : Nat} {row : Row} (there : f.rows[i]? = some row) :
    ∃ (values : List Bool) (result : Bool) (line : String), values.length = f.variableCount ∧
      row = ⟨f.names, values.map .truth, .truth result⟩ ∧ f.table[i + 1]? = some line ∧
      Aligned f.names (tableHeader f.names) values result line := by
  obtain ⟨values, result, long, rfl⟩ := exists_of_mem_rows (List.mem_of_getElem? there)
  refine ⟨values, result, _, long, rfl, ?_,
    aligned_tableLine made.ne_empty_of_mem_names long result⟩
  rw [table_eq_cons, List.getElem?_cons_succ, List.getElem?_map, there, Option.map_some,
    tableLine_eq_barred]

/-- Functions have the same printed table exactly if they have the same variables and rows. -/
theorem tableText_eq_iff (left : f.Made) (right : g.Made) :
    f.tableText = g.tableText ↔ f.names = g.names ∧ f.rows = g.rows := by
  constructor
  · intro same
    have read := left.readTable_tableText
    rw [same, right.readTable_tableText, Prod.mk.injEq] at read
    exact ⟨read.1.symm, read.2.symm⟩
  · rintro ⟨names, rows⟩
    rw [tableText, tableText, table, table, names, rows]

end Made

/-- A printed truth table **is aligned and loses nothing**. It has a header and one line for
each row, all of the same length. In the header every name ends at a place of its own, and in
the line of a row the digit of a variable stands at this place, the digit of the result below
the `f`, and nothing else but the bar. The variables and the rows are read back from the
text, so that two functions have the same printed table exactly if they have the same
variables and the same rows. -/
theorem printed_table_lossless :
    (∀ f : BooleanFunction, f.Made →
      Text.split "\n" f.tableText = f.table ∧ f.table.length = 2 ^ f.variableCount + 1 ∧
      (∀ line ∈ f.table, line.length = (tableHeader f.names).length) ∧
      f.table[0]? = some (tableHeader f.names) ∧
      (∀ j name, f.names[j]? = some name → name ≠ "" ∧ ∃ front back,
        (tableHeader f.names).toList = front ++ name.toList ++ back ∧
          (front ++ name.toList).length = columnEnd f.names j + 1) ∧
      (∀ i row, f.rows[i]? = some row → ∃ (values : List Bool) (result : Bool) (line : String),
        values.length = f.variableCount ∧ row = ⟨f.names, values.map .truth, .truth result⟩ ∧
          f.table[i + 1]? = some line ∧
          Aligned f.names (tableHeader f.names) values result line) ∧
      readTable f.tableText = (f.names, f.rows)) ∧
    ∀ f g : BooleanFunction, f.Made → g.Made →
      (f.tableText = g.tableText ↔ f.names = g.names ∧ f.rows = g.rows) := by
  refine ⟨fun f made => ?_, fun f g left right => left.tableText_eq_iff right⟩
  refine ⟨made.split_tableText, ?_, fun line mem => made.length_of_mem_table mem,
    by rw [table_eq_cons]; rfl, fun j name there => ?_,
    fun i row there => made.exists_aligned there, made.readTable_tableText⟩
  · rw [table, List.length_cons, List.length_map, length_rows, made.length_results, variableCount]
  · have nonempty := made.ne_empty_of_mem_names name (List.mem_of_getElem? there)
    exact ⟨nonempty, exists_append_tableHeader there nonempty⟩

set_option maxRecDepth 4000 in
/-- The table of `ab ∧ ¬c`, with columns of two and of one character, is read back, and the
function of one variable with the number 1 has the table of `x1`. -/
theorem printed_table_lossless_columns :
    ∃ f g h, ofFormula "ab ∧ ¬c" = .ok f ∧
      f.table = ["ab c | f", " 0 0 | 0", " 0 1 | 0", " 1 0 | 1", " 1 1 | 0"] ∧
      (∀ line ∈ f.table, line.length = 8) ∧ readTable f.tableText = (["ab", "c"], f.rows) ∧
      (∃ values result, Aligned ["ab", "c"] "ab c | f" values result " 1 0 | 1") ∧
      ofFormula "x1" = .ok g ∧ ofValues (.int 1) (.int 1) = .ok h ∧ g.tableText = h.tableText := by
  let f : BooleanFunction := ⟨["ab", "c"], [false, false, true, false], .formula "ab ∧ ¬c"
    [.var "ab", .var "c", .operator .negation, .operator (.binary .and)]⟩
  let g : BooleanFunction := ⟨["x1"], [false, true], .formula "x1" [.var "x1"]⟩
  let h : BooleanFunction := ⟨["x1"], [false, true], .number (.int 1)⟩
  have made : ofFormula "ab ∧ ¬c" = .ok f := rfl
  have left : ofFormula "x1" = .ok g := rfl
  have right : ofNumber (.int 1) (.int 1) = .ok h := rfl
  obtain ⟨tables, alike⟩ := printed_table_lossless
  obtain ⟨-, -, width, -, -, aligned, read⟩ := tables f (.formula made)
  have lines : f.table = ["ab c | f", " 0 0 | 0", " 0 1 | 0", " 1 0 | 1", " 1 1 | 0"] := by
    decide +kernel
  have header : tableHeader f.names = "ab c | f" := by decide +kernel
  obtain ⟨values, result, line, -, -, there, under⟩ := aligned 2 _ rfl
  rw [lines] at there
  obtain rfl : " 1 0 | 1" = line := Option.some.inj there
  rw [header] at width under
  exact ⟨f, g, h, made, lines, width, read, ⟨values, result, under⟩, left, rfl,
    (alike g h (.formula left) (.number right)).mpr ⟨rfl, rfl⟩⟩

end BooleanFunction

end Junctor
