import Junctor.Text.Alphanumeric
import Junctor.Text.Blank
import Junctor.Text.Lowercase
import Junctor.Token

/-!
# Reading the Tokens of a Text

Letters and digits run together into words, blanks separate, and every other character is a
token of its own, the digraphs `->` and `=>` apart. Other spellings of an operator count as
its symbol: one character (`!`, `&`, `|`, `=`), a digraph, or a keyword in any mixture of
cases.

The scan goes over the characters once, with the tokens read so far and the letters of the word
that has begun, both with the latest first.

## Main results

* `tokens`: the tokens of a formula, with parentheses that match.
* `typedTokens`: the same, each with its kind.
* `scan_digraph`: the two-character spellings are read as their operators.
* `scan_append`: what the scan finds does not depend on the tokens before.
-/

namespace Junctor.Lexer

/-! ### Spellings -/

/-- The two-character spellings of operators, which need no blank before or behind them. -/
def digraphs : List (String × Operator) :=
  [("->", .binary .implies), ("=>", .binary .iff)]

/-- The one-character spellings of operators besides the symbols. -/
def characters : List (Char × Operator) :=
  [('!', .negation), ('&', .binary .and), ('=', .binary .iff), ('|', .binary .or)]

/-- The keywords, in lower case, with the operators they spell. A word is compared with them
in lower case too. -/
def keywords : List (String × Operator) :=
  [("and", .binary .and), ("eq", .binary .iff), ("equ", .binary .iff), ("iff", .binary .iff),
   ("impl", .binary .implies), ("not", .negation), ("or", .binary .or),
   ("then", .binary .implies), ("xor", .binary .xor)]

/-- The operator that a word stands for, in whatever case it is written. -/
def keyword? (word : String) : Option Operator := keywords.lookup (Text.lowercase word)

/-- The token of a word: a keyword is an operator. -/
def ofWord (word : String) : Token :=
  match keyword? word with
  | some op => .operator op
  | none => .ofText word

/-- The token of a character that stands alone. -/
def ofCharacter (c : Char) : Token :=
  match characters.lookup c with
  | some op => .operator op
  | none => .ofText (String.singleton c)

/-! ### The scan -/

/-- The tokens with the word that ends here, if one has begun; both lists have the latest
first. -/
def endWord (found : List Token) (word : List Char) : List Token :=
  if word.isEmpty then found else ofWord (String.ofList word.reverse) :: found

/-- The scan of the characters that are left, with the tokens found so far and the letters of
the word that has begun, the latest first in both. -/
def scan (found : List Token) (word : List Char) : List Char → List Token
  | [] => (endWord found word).reverse
  | '-' :: '>' :: rest => scan (.operator (.binary .implies) :: endWord found word) [] rest
  | '=' :: '>' :: rest => scan (.operator (.binary .iff) :: endWord found word) [] rest
  | c :: rest =>
    if Text.isBlank c then scan (endWord found word) [] rest
    else if Text.isAlphanumeric c then scan found (c :: word) rest
    else scan (ofCharacter c :: endWord found word) [] rest

/-- A digraph **is read as its operator**, whatever comes before and after it. -/
theorem scan_digraph {spelling : String} {op : Operator} (listed : (spelling, op) ∈ digraphs)
    (found : List Token) (word rest : List Char) :
    scan found word (spelling.toList ++ rest) =
      scan (.operator op :: endWord found word) [] rest := by
  simp only [digraphs, List.mem_cons, Prod.mk.injEq, List.not_mem_nil, or_false] at listed
  rcases listed with ⟨rfl, rfl⟩ | ⟨rfl, rfl⟩
  · show scan found word ('-' :: '>' :: rest) = _
    rw [scan]
  · show scan found word ('=' :: '>' :: rest) = _
    rw [scan]

/-- Ending a word leaves earlier tokens where they are. -/
theorem endWord_append (found earlier : List Token) (word : List Char) :
    endWord (found ++ earlier) word = endWord found word ++ earlier := by
  unfold endWord
  split <;> simp

/-- What the scan finds does not depend on the tokens read earlier, which come first in what
it gives. -/
theorem scan_append (found earlier : List Token) (word cs : List Char) :
    scan (found ++ earlier) word cs = earlier.reverse ++ scan found word cs := by
  fun_induction scan found word cs with
  | case1 found word => simp [scan, endWord_append]
  | case2 found word rest ih => rw [scan, endWord_append, ← List.cons_append, ih]
  | case3 found word rest ih => rw [scan, endWord_append, ← List.cons_append, ih]
  | case4 found word c rest notArrow notDoubleArrow blank ih =>
    rw [scan.eq_4 _ _ _ _ notArrow notDoubleArrow, if_pos blank, endWord_append, ih]
  | case5 found word c rest notArrow notDoubleArrow notBlank alphanumeric ih =>
    rw [scan.eq_4 _ _ _ _ notArrow notDoubleArrow, if_neg notBlank, if_pos alphanumeric, ih]
  | case6 found word c rest notArrow notDoubleArrow notBlank notAlphanumeric ih =>
    rw [scan.eq_4 _ _ _ _ notArrow notDoubleArrow, if_neg notBlank, if_neg notAlphanumeric,
      endWord_append, ← List.cons_append, ih]

/-! ### Parentheses -/

/-- Check that the parentheses of the tokens match, of which `depth` are open. -/
def checkParens (depth : Nat) : List Token → Except FormulaError Unit
  | [] => if depth = 0 then .ok () else .error .missingClosing
  | .openParen :: rest => checkParens (depth + 1) rest
  | .closeParen :: rest =>
    match depth with
    | 0 => .error .unexpectedClosing
    | depth + 1 => checkParens depth rest
  | _ :: rest => checkParens depth rest

end Junctor.Lexer

namespace Junctor

/-! ### Formulas -/

/-- The **tokens** of a formula, provided that it is not blank and that its parentheses
match. -/
def tokens (formula : String) : Except FormulaError (List Token) := do
  if Text.isBlankText formula then throw .empty
  let found := Lexer.scan [] [] formula.toList
  Lexer.checkParens 0 found
  return found

/-- The tokens of a formula **with their kinds**, all of which must have one. -/
def typedTokens (formula : String) : Except FormulaError (List (Token × Token.Kind)) := do
  (← tokens formula).mapM fun t => return (t, ← t.kind?)

end Junctor
