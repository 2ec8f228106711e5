/-!
# Splitting Texts

A text is split at every place where a separator stands, from the left and without overlaps.
Parts that are put together with the separator between them are found again, if none of them
holds the first character of the separator.

The words of a line are its parts between spaces. Spaces may come several in a row, and then
there is nothing in between.

## Main results

* `split`: the parts of a text.
* `split_intercalate`: parts that are put together are found again.
* `words`: the words of a line.
* `words_append`, `words_intercalate`: the words of texts with spaces in between.
-/

namespace Junctor.Text

/-- The parts of the characters that are left, of which the next `skip` belong to a separator;
the part that has begun has the latest character first. -/
def splitFrom (separator : List Char) (skip : Nat) (part : List Char) :
    List Char → List (List Char)
  | [] => [part.reverse]
  | c :: rest =>
    match skip with
    | skip + 1 => splitFrom separator skip part rest
    | 0 =>
      if separator.isPrefixOf (c :: rest) then
        part.reverse :: splitFrom separator (separator.length - 1) [] rest
      else splitFrom separator 0 (c :: part) rest

/-- The **parts** of a text between separators, which must not be empty. There is always one
part more than there are separators. -/
def split (separator s : String) : List String :=
  (splitFrom separator.toList 0 [] s.toList).map String.ofList

variable {first : Char} {tail : List Char}

/-- The rest of a separator is skipped. -/
theorem splitFrom_skip (separator part skipped rest : List Char) :
    splitFrom separator skipped.length part (skipped ++ rest) =
      splitFrom separator 0 part rest := by
  induction skipped with
  | nil => rfl
  | cons c skipped ih => rw [List.cons_append, List.length_cons, splitFrom, ih]

/-- Characters with which no separator begins belong to the part. -/
theorem splitFrom_append {word : List Char} (free : first ∉ word) (part rest : List Char) :
    splitFrom (first :: tail) 0 part (word ++ rest) =
      splitFrom (first :: tail) 0 (word.reverse ++ part) rest := by
  induction word generalizing part with
  | nil => rfl
  | cons c word ih =>
      rw [List.mem_cons, not_or] at free
      have other : (first :: tail).isPrefixOf (c :: (word ++ rest)) = false := by
        rw [List.isPrefixOf_cons_cons, beq_eq_false_iff_ne.mpr free.1, Bool.false_and]
      rw [List.cons_append, splitFrom, if_neg (by rw [other]; exact Bool.false_ne_true), ih free.2,
        List.reverse_cons, List.append_assoc, List.singleton_append]

/-- A separator ends the part. -/
theorem splitFrom_separator (part rest : List Char) :
    splitFrom (first :: tail) 0 part (first :: tail ++ rest) =
      part.reverse :: splitFrom (first :: tail) 0 [] rest := by
  have here : (first :: tail).isPrefixOf (first :: (tail ++ rest)) = true :=
    List.isPrefixOf_iff_prefix.mpr (List.prefix_append (first :: tail) rest)
  rw [List.cons_append, splitFrom, if_pos here, List.length_cons, Nat.add_sub_cancel,
    splitFrom_skip]

/-- Parts that are put together are found again. -/
theorem splitFrom_intercalate {parts : List (List Char)} (nonempty : parts ≠ [])
    (free : ∀ part ∈ parts, first ∉ part) :
    splitFrom (first :: tail) 0 [] ((first :: tail).intercalate parts) = parts := by
  induction parts with
  | nil => exact absurd rfl nonempty
  | cons part parts ih =>
      have here : first ∉ part := free part (by simp)
      cases parts with
      | nil =>
          have whole : splitFrom (first :: tail) 0 [] (part ++ []) = _ :=
            splitFrom_append here [] []
          rw [List.append_nil, List.append_nil] at whole
          rw [List.intercalate_singleton, whole, splitFrom, List.reverse_reverse]
      | cons next parts =>
          rw [List.intercalate_cons_cons, List.append_assoc, splitFrom_append here,
            splitFrom_separator, List.append_nil, List.reverse_reverse,
            ih (by simp) fun part mem => free part (List.mem_cons_of_mem _ mem)]

/-- Texts that are put together **are found again**, if none of them holds the first
character of the separator. -/
theorem split_intercalate {separator : String} (begins : separator.toList = first :: tail)
    {parts : List String} (nonempty : parts ≠ []) (free : ∀ part ∈ parts, first ∉ part.toList) :
    split separator (separator.intercalate parts) = parts := by
  have found : splitFrom (first :: tail) 0 []
      ((first :: tail).intercalate (parts.map String.toList)) = _ :=
    splitFrom_intercalate (by simpa using nonempty) (by simpa using free)
  rw [split, String.toList_intercalate, begins, found, List.map_map]
  simp

/-! ### Words -/

/-- The words of a line, with any number of spaces in between, before and behind. -/
def words (s : String) : List String := (split " " s).filter (· ≠ "")

/-- A separator of one character splits a text in front of it and behind it. -/
theorem splitFrom_append_cons (part left right : List Char) :
    splitFrom [first] 0 part (left ++ first :: right) =
      splitFrom [first] 0 part left ++ splitFrom [first] 0 [] right := by
  induction left generalizing part with
  | nil => exact @splitFrom_separator first [] part right
  | cons c left ih =>
      rw [List.cons_append]
      by_cases same : first = c
      · subst same
        have behind := @splitFrom_separator first [] part
        simp only [List.singleton_append] at behind
        rw [behind, behind, ih, List.cons_append]
      · have free : first ∉ [c] := by simpa using same
        have ahead := @splitFrom_append first [] [c] free part
        simp only [List.singleton_append] at ahead
        rw [ahead, ahead, ih]

/-- The words of two texts with a space in between are those of both, in order. -/
theorem words_append (s t : String) : words (s ++ " " ++ t) = words s ++ words t := by
  have pieces : (s ++ " " ++ t).toList = s.toList ++ ' ' :: t.toList := by simp
  have blank : " ".toList = [' '] := rfl
  rw [words, words, words, split, split, split, pieces, blank, splitFrom_append_cons,
    List.map_append, List.filter_append]

/-- A text without spaces is one word, if it is not empty. -/
theorem words_of_not_mem {w : String} (nonempty : w ≠ "") (free : ' ' ∉ w.toList) :
    words w = [w] := by
  have whole : splitFrom [' '] 0 [] (w.toList ++ []) = _ := splitFrom_append free [] []
  have blank : " ".toList = [' '] := rfl
  rw [List.append_nil, List.append_nil, splitFrom, List.reverse_reverse] at whole
  rw [words, split, blank, whole]
  simp [nonempty]

/-- Spaces in front of a text add no word. -/
theorem words_replicate_append (count : Nat) (s : String) :
    words (String.ofList (List.replicate count ' ') ++ s) = words s := by
  induction count with
  | zero => simp
  | succ count ih =>
      have pieces : String.ofList (List.replicate (count + 1) ' ') ++ s =
          "" ++ " " ++ (String.ofList (List.replicate count ' ') ++ s) := by
        rw [← String.toList_inj]
        simp [List.replicate_succ]
      rw [pieces, words_append, ih]
      rfl

/-- The words of texts with spaces in between are **those of all of them**. -/
theorem words_intercalate (texts : List String) :
    words (" ".intercalate texts) = texts.flatMap words := by
  induction texts with
  | nil => rfl
  | cons text texts ih =>
      cases texts with
      | nil => simp
      | cons next texts =>
          rw [String.intercalate_cons_cons, words_append, ih, ← List.flatMap_cons]

end Junctor.Text
