import Junctor.Proofs.VariableNames

/-!
# What the Scan Reads

The scan is taken through a text piece by piece: a word, a sign, a blank. A piece is read the
same wherever it stands, as long as a word is followed by something that is not alphanumeric,
so that the tokens of a text are found by putting its pieces together.

No character is both blank and alphanumeric, which matters because the scan asks for blanks
first.

## Main results

* `Text.isBlank_of_isAlphanumeric`: an alphanumeric character is not blank.
* `Lexer.scan_of_separates`: where a word is over, it is read.
* `Lexer.scan_name`, `Lexer.scan_constant`, `Lexer.scan_operator`, `Lexer.scan_sign`,
  `Lexer.scan_blank`: the pieces of formulas.
-/

namespace Junctor

/-! ### Kinds of characters -/

/-- An alphanumeric character is **not blank**. -/
theorem Text.isBlank_of_isAlphanumeric {c : Char} (alphanumeric : isAlphanumeric c = true) :
    isBlank c = false := by
  have apart : ∀ r ∈ blankRanges, ∀ k < r.2 + 1 - r.1,
      (inRanges letterRanges (r.1 + k) || inRanges numericRanges (r.1 + k)) = false := by
    decide +kernel
  rw [← Bool.not_eq_true]
  intro blank
  obtain ⟨r, mem, low, high⟩ := exists_range_of_inRanges blank
  have here := apart r mem (c.toNat - r.1) (by omega)
  rw [Nat.add_sub_cancel' low] at here
  rw [isAlphanumeric, isLetter, here] at alphanumeric
  cases alphanumeric

/-- A blank character is not alphanumeric. -/
theorem Text.isAlphanumeric_of_isBlank {c : Char} (blank : isBlank c = true) :
    isAlphanumeric c = false := by
  rw [← Bool.not_eq_true]
  intro alphanumeric
  rw [isBlank_of_isAlphanumeric alphanumeric] at blank
  cases blank

/-- Do the characters begin with something that ends a word, or not at all? -/
def Text.Separates (cs : List Char) : Prop := ∀ c ∈ cs.head?, Text.isAlphanumeric c = false

/-- The end of a text ends a word. -/
theorem Text.separates_nil : Text.Separates [] := by
  intro c first
  cases first

/-- A character that is not alphanumeric ends a word. -/
theorem Text.separates_cons {c : Char} (sign : isAlphanumeric c = false) (rest : List Char) :
    Text.Separates (c :: rest) := by
  intro d first
  cases first
  exact sign

namespace Lexer

/-! ### Steps of the scan -/

variable {found : List Token} {word rest : List Char}

/-- The scan at a character with which no digraph begins. -/
theorem scan_cons {c : Char} (noDash : c ≠ '-') (noEquals : c ≠ '=') :
    scan found word (c :: rest) =
      if Text.isBlank c then scan (endWord found word) [] rest
      else if Text.isAlphanumeric c then scan found (c :: word) rest
      else scan (ofCharacter c :: endWord found word) [] rest :=
  scan.eq_4 found word c rest (fun _ same => absurd same noDash) fun _ same => absurd same noEquals

/-- Alphanumeric characters belong to the word that has begun. -/
theorem scan_letters {letters : List Char} (all : ∀ c ∈ letters, Text.isAlphanumeric c = true) :
    scan found word (letters ++ rest) = scan found (letters.reverse ++ word) rest := by
  induction letters generalizing word with
  | nil => rfl
  | cons c letters ih =>
      have here := all c (by simp)
      have noDash : c ≠ '-' := by
        rintro rfl
        exact absurd here (by decide)
      have noEquals : c ≠ '=' := by
        rintro rfl
        exact absurd here (by decide)
      rw [List.cons_append, scan_cons noDash noEquals, Text.isBlank_of_isAlphanumeric here,
        if_neg Bool.false_ne_true, if_pos here, ih fun c mem => all c (by simp [mem]),
        List.reverse_cons, List.append_assoc, List.singleton_append]

/-- Where a word ends, because the text does or something else begins there, it is read as a
token. -/
theorem scan_of_separates (separates : Text.Separates rest) :
    scan found word rest = scan (endWord found word) [] rest := by
  fun_cases scan found word rest with
  | case1 => rfl
  | case2 rest => rfl
  | case3 rest => rfl
  | case4 c rest noArrow noDoubleArrow blank =>
      rw [scan.eq_4 _ _ _ _ noArrow noDoubleArrow, if_pos blank]
      rfl
  | case5 c rest noArrow noDoubleArrow noBlank alphanumeric =>
      rw [separates c rfl] at alphanumeric
      cases alphanumeric
  | case6 c rest noArrow noDoubleArrow noBlank sign =>
      rw [scan.eq_4 _ _ _ _ noArrow noDoubleArrow, if_neg noBlank, if_neg sign]
      rfl

/-- A blank between words is **passed over**. -/
theorem scan_blank {c : Char} (blank : Text.isBlank c = true) :
    scan found [] (c :: rest) = scan found [] rest := by
  have noDash : c ≠ '-' := by
    rintro rfl
    exact absurd blank (by decide)
  have noEquals : c ≠ '=' := by
    rintro rfl
    exact absurd blank (by decide)
  rw [scan_cons noDash noEquals, if_pos blank]
  rfl

/-- A space between words is passed over. -/
theorem scan_space : scan found [] (' ' :: rest) = scan found [] rest :=
  scan_blank (by decide)

/-! ### Words -/

/-- A word that is followed by something else is read as a whole. -/
theorem scan_word {s : String} (letters : Text.isWord s = true) (nonempty : s.toList ≠ [])
    (separates : Text.Separates rest) :
    scan found [] (s.toList ++ rest) = scan (ofWord s :: found) [] rest := by
  have begun : (s.toList.reverse ++ []).isEmpty = false := by
    rw [List.append_nil, List.isEmpty_reverse, List.isEmpty_eq_false_iff]
    exact nonempty
  rw [scan_letters (Text.isWord_iff.mp letters), scan_of_separates separates, endWord, begun,
    if_neg Bool.false_ne_true, List.append_nil, List.reverse_reverse, String.ofList_toList]

/-- The symbol of an operator begins with no letter. -/
theorem startsWithLetter_symbol (op : Operator) : Token.startsWithLetter op.symbol = false := by
  rcases op with _ | c
  · decide
  · cases c <;> decide +kernel

/-- A name is read as its variable. -/
theorem ofWord_of_isName {x : String} (name : IsName x) : ofWord x = .var x := by
  have noSymbol : Operator.ofSymbol? x = none := by
    cases read : Operator.ofSymbol? x with
    | none => rfl
    | some op =>
        have symbol := Operator.symbol_of_ofSymbol? read
        exact absurd symbol.symm (name.ne_of_startsWithLetter (startsWithLetter_symbol op))
  have other {s : String} : Token.startsWithLetter s = false → x ≠ s := name.ne_of_startsWithLetter
  rw [ofWord, name.free]
  show Token.ofText x = _
  rw [Token.ofText, noSymbol]
  show (if x = "0" then _ else _) = _
  rw [if_neg (other (by decide)), if_neg (other (by decide)),
    if_neg (other (by decide)), if_neg (other (by decide)), if_pos name.letter]

/-- The scan reads a name that is followed by something else than a letter, a digit or an
underscore. -/
theorem scan_name {x : String} (name : IsName x) (separates : Text.Separates rest) :
    scan found [] (x.toList ++ rest) = scan (.var x :: found) [] rest := by
  rw [scan_word name.word name.toList_ne_nil separates, ofWord_of_isName name]

/-- The scan **reads a constant** that is followed by something else. -/
theorem scan_constant (value : Bool) (separates : Text.Separates rest) :
    scan found [] ((Token.constantText value).toList ++ rest) =
      scan (.const value :: found) [] rest := by
  have read : ofWord (Token.constantText value) = .const value := by
    cases value <;> decide
  rw [scan_word (by cases value <;> decide) (by cases value <;> decide) separates, read]

/-! ### Signs -/

/-- The character **stands alone** as a token, whatever comes after it, since it belongs to
no word and begins no digraph. -/
structure IsSign (c : Char) (t : Token) : Prop where
  /-- No digraph begins with it. -/
  noDash : c ≠ '-'
  /-- No digraph begins with it. -/
  noEquals : c ≠ '='
  /-- It is not blank. -/
  noBlank : Text.isBlank c = false
  /-- It belongs to no word. -/
  sign : Text.isAlphanumeric c = false
  /-- It is read as the token. -/
  read : ofCharacter c = t

instance (c : Char) (t : Token) : Decidable (IsSign c t) :=
  decidable_of_iff (c ≠ '-' ∧ c ≠ '=' ∧ Text.isBlank c = false ∧ Text.isAlphanumeric c = false ∧
      ofCharacter c = t)
    ⟨fun ⟨noDash, noEquals, noBlank, sign, read⟩ => ⟨noDash, noEquals, noBlank, sign, read⟩,
      fun h => ⟨h.noDash, h.noEquals, h.noBlank, h.sign, h.read⟩⟩

/-- A sign ends a word. -/
theorem IsSign.separates {c : Char} {t : Token} (h : IsSign c t) (rest : List Char) :
    Text.Separates (c :: rest) :=
  Text.separates_cons h.sign rest

/-- The scan **reads a sign**. -/
theorem scan_sign {c : Char} {t : Token} (h : IsSign c t) :
    scan found [] (c :: rest) = scan (t :: found) [] rest := by
  rw [scan_cons h.noDash h.noEquals, h.noBlank, if_neg Bool.false_ne_true, h.sign,
    if_neg Bool.false_ne_true, h.read]
  rfl

/-- The opening parenthesis is a sign. -/
theorem isSign_openParen : IsSign '(' .openParen := by decide

/-- The closing parenthesis is a sign. -/
theorem isSign_closeParen : IsSign ')' .closeParen := by decide

/-- The symbol of every operator is a sign. -/
theorem exists_isSign (op : Operator) : ∃ c, op.symbol.toList = [c] ∧ IsSign c (.operator op) := by
  rcases op with _ | c
  · exact ⟨'¬', rfl, by decide⟩
  · cases c with
    | and => exact ⟨'∧', rfl, by decide +kernel⟩
    | or => exact ⟨'∨', rfl, by decide +kernel⟩
    | xor => exact ⟨'^', rfl, by decide⟩
    | implies => exact ⟨'→', rfl, by decide +kernel⟩
    | iff => exact ⟨'↔', rfl, by decide +kernel⟩

/-- The scan **reads the symbol** of an operator. -/
theorem scan_operator (op : Operator) :
    scan found [] (op.symbol.toList ++ rest) = scan (.operator op :: found) [] rest := by
  obtain ⟨c, single, sign⟩ := exists_isSign op
  rw [single, List.singleton_append, scan_sign sign]

end Lexer

end Junctor
