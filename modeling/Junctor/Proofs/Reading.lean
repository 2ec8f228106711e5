import Junctor.Proofs.EntryPoints
import Junctor.Proofs.Scanning
import Junctor.Proofs.Yard

/-!
# Texts Read Piece by Piece

A text that is put together from pieces is read piece by piece, as long as no word runs on
over a seam and no digraph is put together there. A piece in parentheses is safe on both
sides, whatever it holds: no word and no digraph ends with an opening parenthesis or goes on
with a closing one.

What a piece is read as is said in two ways. `Lexer.Reads` gives its tokens, and
`Formula.Written` gives the formula for which these tokens stand at a level of the small
grammar. The second kind of statement is put together without any mention of tokens, one
lemma a rule.

## Main results

* `Lexer.scan_append_text`: what is scanned before a seam is not changed by what comes behind
  it.
* `tokens_eq_ok`: the tokens of a text whose scan finds something.
* `Lexer.reads_enclosed`: a text in parentheses is read as its own tokens in parentheses.
* `Formula.Written.parse_eq_ok`: what is written is parsed.
-/

namespace Junctor

/-! ### Pieces, character by character -/

/-- A text with a sign of negation in front, before other characters. -/
theorem Text.negated_append (s : String) (rest : List Char) :
    ("¬" ++ s).toList ++ rest = '¬' :: (s.toList ++ rest) := by
  rw [String.toList_append]
  rfl

/-- A text in parentheses, before other characters. -/
theorem Text.enclosed_append (s : String) (rest : List Char) :
    ("(" ++ s ++ ")").toList ++ rest = '(' :: (s.toList ++ ')' :: rest) := by
  simp only [String.toList_append, List.append_assoc]
  rfl

/-- Two texts with a symbol between them, before other characters. -/
theorem Text.joined_append (s symbol t : String) (rest : List Char) :
    (s ++ (" " ++ symbol ++ " ") ++ t).toList ++ rest =
      s.toList ++ ' ' :: (symbol.toList ++ ' ' :: (t.toList ++ rest)) := by
  simp only [String.toList_append, List.append_assoc]
  rfl

namespace Lexer

variable {found : List Token} {word rest : List Char}

/-! ### Seams -/

/-- A character with which no digraph begins begins none before a seam either. -/
theorem append_ne_arrow {c d : Char} {cs : List Char} (apart : rest.head? ≠ some '>')
    (noArrow : ∀ tail, c = d → cs = '>' :: tail → False) :
    ∀ tail, c = d → cs ++ rest = '>' :: tail → False := by
  intro tail same whole
  cases cs with
  | nil => exact apart (by simp_all)
  | cons e cs =>
      simp only [List.cons_append, List.cons.injEq] at whole
      exact noArrow cs same (by rw [whole.1])

/-- What is scanned before a seam is not changed by what comes behind it, as long as no word
and no digraph runs over the seam. -/
theorem scan_append_text {cs : List Char} (separates : Text.Separates rest)
    (apart : rest.head? ≠ some '>') :
    scan found word (cs ++ rest) = scan (scan found word cs).reverse [] rest := by
  fun_induction scan found word cs with
  | case1 found word => rw [List.nil_append, List.reverse_reverse, scan_of_separates separates]
  | case2 found word cs ih => rw [← ih, List.cons_append, List.cons_append, scan]
  | case3 found word cs ih => rw [← ih, List.cons_append, List.cons_append, scan]
  | case4 found word c cs notArrow notDoubleArrow blank ih =>
      rw [← ih, List.cons_append, scan.eq_4 _ _ _ _ (append_ne_arrow apart notArrow)
        (append_ne_arrow apart notDoubleArrow), if_pos blank]
  | case5 found word c cs notArrow notDoubleArrow notBlank alphanumeric ih =>
      rw [← ih, List.cons_append, scan.eq_4 _ _ _ _ (append_ne_arrow apart notArrow)
        (append_ne_arrow apart notDoubleArrow), if_neg notBlank, if_pos alphanumeric]
  | case6 found word c cs notArrow notDoubleArrow notBlank sign ih =>
      rw [← ih, List.cons_append, scan.eq_4 _ _ _ _ (append_ne_arrow apart notArrow)
        (append_ne_arrow apart notDoubleArrow), if_neg notBlank, if_neg sign]

/-! ### Whole texts -/

/-- Blanks are passed over. -/
theorem scan_blanks {cs : List Char} (all : ∀ c ∈ cs, Text.isBlank c = true) :
    scan found [] cs = found.reverse := by
  induction cs with
  | nil => rfl
  | cons c cs ih =>
      rw [scan_blank (all c (by simp))]
      exact ih fun d mem => all d (by simp [mem])

end Lexer

/-- A text whose scan finds something **has these tokens**, if their parentheses match. -/
theorem tokens_eq_ok {text : String} {ts : List Token}
    (found : Lexer.scan [] [] text.toList = ts) (nonempty : ts ≠ [])
    (matched : Lexer.checkParens 0 ts = .ok ()) : tokens text = .ok ts := by
  have notBlank : Text.isBlankText text = false := by
    rw [← Bool.not_eq_true, Text.isBlankText, List.all_eq_true]
    intro all
    rw [Lexer.scan_blanks all] at found
    exact nonempty found.symm
  rw [tokens, notBlank, if_neg Bool.false_ne_true, found]
  exact bind_eq_ok_iff.mpr ⟨(), matched, rfl⟩

namespace Lexer

/-! ### Pieces and their tokens -/

/-- The text is **read as the tokens**, wherever it is followed by something that ends a
word. -/
def Reads (s : String) (ts : List Token) : Prop :=
  ∀ (found : List Token) (rest : List Char), Text.Separates rest →
    scan found [] (s.toList ++ rest) = scan (ts.reverse ++ found) [] rest

namespace Reads

variable {s t : String} {ts us : List Token}

/-- The whole scan of a piece finds its tokens. -/
theorem scan_eq (h : Reads s ts) : scan [] [] s.toList = ts := by
  have whole := h [] [] Text.separates_nil
  rw [List.append_nil, List.append_nil, scan] at whole
  rw [whole]
  exact List.reverse_reverse ts

/-- A name is read as its variable. -/
theorem name {x : String} (name : IsName x) : Reads x [.var x] :=
  fun _ _ separates => scan_name name separates

/-- A constant is read as itself. -/
theorem constant (value : Bool) : Reads (Token.constantText value) [.const value] :=
  fun _ _ separates => scan_constant value separates

/-- A sign in front is read as its operator. -/
theorem negated (h : Reads s ts) : Reads ("¬" ++ s) (.operator .negation :: ts) := by
  intro found rest separates
  have negation : IsSign '¬' (.operator .negation) := by decide
  rw [Text.negated_append, scan_sign negation, h _ _ separates]
  simp

/-- Two pieces with a connective between them are read as the tokens of both with the
connective between them. -/
theorem joined (left : Reads s ts) (right : Reads t us) (c : Connective) :
    Reads (s ++ (" " ++ c.symbol ++ " ") ++ t) (ts ++ .operator (.binary c) :: us) := by
  intro found rest separates
  have space : Text.Separates
      (' ' :: ((Operator.binary c).symbol.toList ++ ' ' :: (t.toList ++ rest))) := by
    rintro d ⟨⟩
    decide
  have pieces : (s ++ (" " ++ c.symbol ++ " ") ++ t).toList ++ rest =
      s.toList ++ ' ' :: ((Operator.binary c).symbol.toList ++ ' ' :: (t.toList ++ rest)) :=
    Text.joined_append s c.symbol t rest
  rw [pieces, left _ _ space, scan_space, scan_operator, scan_space, right _ _ separates]
  simp

end Reads

/-- Tokens in parentheses. -/
def enclosed (ts : List Token) : List Token := .openParen :: ts ++ [.closeParen]

/-- Any text in parentheses is read as **its own tokens in parentheses**. -/
theorem reads_enclosed (s : String) :
    Reads ("(" ++ s ++ ")") (enclosed (scan [] [] s.toList)) := by
  intro found rest _
  have inside := scan_append [] (.openParen :: found) [] s.toList
  rw [List.nil_append] at inside
  rw [Text.enclosed_append, scan_sign isSign_openParen,
    scan_append_text (isSign_closeParen.separates rest) (by simp), scan_sign isSign_closeParen,
    inside]
  simp [enclosed]

/-- A piece in parentheses is read as its tokens in parentheses. -/
theorem Reads.enclosed {s : String} {ts : List Token} (h : Reads s ts) :
    Reads ("(" ++ s ++ ")") (enclosed ts) := by
  have outside := reads_enclosed s
  rwa [h.scan_eq] at outside

end Lexer

/-! ### Pieces and their formulas -/

/-- The parentheses of tokens that are derived match by themselves. -/
theorem Derives.checkParens_append {repeated : Bool} {level : Nat} {ts : List Token} {f : Formula}
    (d : Derives repeated level ts f) (depth : Nat) (us : List Token) :
    Lexer.checkParens depth (ts ++ us) = Lexer.checkParens depth us := by
  induction d generalizing depth us with
  | var name => rfl
  | const value => rfl
  | @paren ts f _ ih =>
      rw [List.append_assoc, List.cons_append, Lexer.checkParens, ih]
      rfl
  | not _ ih => exact ih depth us
  | notAgain _ _ ih => exact ih depth us
  | binary _ _ _ ihLeft ihRight =>
      rw [List.append_assoc, ihLeft, List.cons_append]
      exact ihRight depth us
  | lower _ _ _ ih => exact ih depth us

/-- Tokens that are derived hold an operand, so that there are some. -/
theorem Derives.ne_nil {level : Nat} {ts : List Token} {f : Formula}
    (d : Derives false level ts f) : ts ≠ [] := by
  rintro rfl
  have operand := f.one_le_countP_postorder
  rw [← Except.ok.inj d.lowest.toReversePolish_eq_postorder] at operand
  exact absurd operand (by decide)

/-- A text that is read as tokens of the small grammar has these tokens, as their parentheses
always match. -/
theorem Lexer.Reads.tokens_eq_ok {level : Nat} {s : String} {ts : List Token} {f : Formula}
    (reads : Lexer.Reads s ts) (d : Derives false level ts f) : tokens s = .ok ts := by
  have matched := d.checkParens_append 0 []
  rw [List.append_nil] at matched
  exact Junctor.tokens_eq_ok reads.scan_eq d.ne_nil matched

namespace Formula

/-- The text is **written for the formula** at a level of the small grammar. -/
def Written (level : Nat) (s : String) (f : Formula) : Prop :=
  ∃ ts, Lexer.Reads s ts ∧ Derives false level ts f

namespace Written

variable {level : Nat} {s t : String} {f g : Formula}

/-- A name is written for its variable. -/
theorem name {x : String} (name : IsName x) : Written 5 x (.var x) :=
  ⟨_, .name name, .var x⟩

/-- A constant is written for itself. -/
theorem constant (value : Bool) : Written 5 (Token.constantText value) (.const value) :=
  ⟨_, .constant value, .const value⟩

/-- A sign in front negates. -/
theorem negated (h : Written 5 s f) : Written 4 ("¬" ++ s) (.not f) := by
  obtain ⟨ts, reads, derived⟩ := h
  exact ⟨_, reads.negated, derived.not⟩

/-- Parentheses make an atom of a formula. -/
theorem enclosed (h : Written 1 s f) : Written 5 ("(" ++ s ++ ")") f := by
  obtain ⟨ts, reads, derived⟩ := h
  exact ⟨_, reads.enclosed, derived.paren⟩

/-- A connective of the level joins two formulas, of which the right one is of the next
level. -/
theorem joined {c : Connective} (joins : Joins level c) (left : Written level s f)
    (right : Written (level + 1) t g) :
    Written level (s ++ (" " ++ c.symbol ++ " ") ++ t) (.binary c f g) := by
  obtain ⟨ts, readsLeft, derivedLeft⟩ := left
  obtain ⟨us, readsRight, derivedRight⟩ := right
  exact ⟨_, readsLeft.joined readsRight c, derivedLeft.binary joins derivedRight⟩

/-- A formula of a level is one of every level below. -/
theorem lower_le {low : Nat} (h : Written level s f) (least : 1 ≤ low) (le : low ≤ level) :
    Written low s f := by
  obtain ⟨ts, reads, derived⟩ := h
  exact ⟨ts, reads, derived.lower_le least le⟩

/-- What is written by the rules of the small grammar **is parsed** as the formula that is
derived. -/
theorem parse_eq_ok (h : Written level s f) : parse s = .ok f := by
  obtain ⟨ts, reads, derived⟩ := h
  exact parse_eq_ok_iff.mpr
    ⟨ts, reads.tokens_eq_ok derived, derived.lowest.toReversePolish_eq_postorder⟩

end Written

end Formula

end Junctor
