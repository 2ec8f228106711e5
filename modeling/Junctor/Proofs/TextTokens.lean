import Junctor.Proofs.Spelling

/-!
# Which Texts Have Tokens

The parentheses of a text are checked when its tokens have been found, and not while its
characters are read. This makes no difference: a parenthesis belongs to no word and to no
digraph and is the spelling of nothing but itself, so that the parentheses among the tokens
are those among the characters, in their order. What is wrong with a text can therefore be
seen from its characters.

Where nothing is wrong, every token is written in one way only. Other spellings of operators
are gone, and what is written holds no blank.

## Main results

* `Lexer.Layout.parens_eq`: the parentheses among the tokens and among the characters.
* `Lexer.opened_iff`: up to which places parentheses are closed that are not open.
* `Lexer.Plain`, `Lexer.Spells.plain`: how tokens are written.
* `tokens_rejects`: the texts without tokens, and the tokens of the others.
-/

namespace Junctor

/-! ### Parentheses -/

/-- Is the character a parenthesis? -/
def Text.isParen (c : Char) : Bool := c == '(' || c == ')'

/-- There are two parentheses. -/
theorem Text.isParen_iff {c : Char} : isParen c = true ↔ c = '(' ∨ c = ')' := by
  rw [isParen, Bool.or_eq_true, beq_iff_eq, beq_iff_eq]

/-- The parenthesis that a token is. -/
def Token.paren? : Token → Option Char
  | openParen => some '('
  | closeParen => some ')'
  | _ => none

/-- A token that is a parenthesis is written as it. -/
theorem Token.text_of_paren? {t : Token} {c : Char} (paren : t.paren? = some c) :
    t.text = String.singleton c ∧ Text.isParen c = true := by
  cases t with
  | openParen => cases paren; exact ⟨rfl, rfl⟩
  | closeParen => cases paren; exact ⟨rfl, rfl⟩
  | _ => cases paren

/-- A text that holds no parenthesis is not read as one. -/
theorem Token.paren?_ofText {s : String} (free : ∀ c ∈ s.toList, Text.isParen c = false) :
    (ofText s).paren? = none := by
  cases paren : (ofText s).paren? with
  | none => rfl
  | some c =>
      obtain ⟨single, isParen⟩ := text_of_paren? paren
      rw [text_ofText] at single
      rw [free c (by simp [single])] at isParen
      cases isParen

/-- A word holds no parenthesis. -/
theorem Text.isParen_of_isWord {s : String} (word : Text.isWord s = true) :
    ∀ c ∈ s.toList, Text.isParen c = false := by
  intro c mem
  rw [← Bool.not_eq_true, isParen_iff]
  rintro (rfl | rfl)
  · exact not_mem_of_isWord word (by decide) mem
  · exact not_mem_of_isWord word (by decide) mem

namespace Lexer

/-- A spelling **holds a parenthesis** exactly if it spells one. -/
theorem Spells.parens_eq {s : String} {t : Token} (spells : Spells s t) :
    [t].filterMap Token.paren? = s.toList.filter Text.isParen := by
  -- No spelling of an operator holds a parenthesis, and neither does a word.
  have neither {u : Token} (paren : u.paren? = none)
      (free : ∀ c ∈ s.toList, Text.isParen c = false) :
      [u].filterMap Token.paren? = s.toList.filter Text.isParen := by
    rw [List.filterMap_cons_none paren, List.filterMap_nil, eq_comm, List.filter_eq_nil_iff]
    exact fun c mem => Bool.eq_false_iff.mp (free c mem)
  cases spells with
  | word letters nonempty free =>
      have noParen := Text.isParen_of_isWord letters
      exact neither (Token.paren?_ofText noParen) noParen
  | symbol op =>
      obtain ⟨c, single, sign⟩ := exists_isSign op
      refine neither rfl ?_
      rw [single, List.forall_mem_singleton, ← Bool.not_eq_true, Text.isParen_iff]
      rintro (rfl | rfl)
      · cases isSign_openParen.read.symm.trans sign.read
      · cases isSign_closeParen.read.symm.trans sign.read
  | @character c op listed =>
      refine neither rfl ?_
      have signs : ∀ entry ∈ characters, Text.isParen entry.1 = false := by decide
      simpa using signs _ (mem_of_lookup listed)
  | digraph listed =>
      have signs : (digraphs.all fun entry => entry.1.toList.all fun c => !Text.isParen c) =
        true := by
        decide +kernel
      have free := List.all_eq_true.mp (List.all_eq_true.mp signs _ listed)
      exact neither rfl fun c mem => (Bool.not_eq_true' _).mp (free c mem)
  | keyword read => exact neither rfl (Text.isParen_of_isWord (isWord_of_keyword? read).1)
  | @sign c noBlank sign free =>
      cases paren : Text.isParen c with
      | false =>
          have noParen : ∀ d ∈ (String.singleton c).toList, Text.isParen d = false := by
            simp [paren]
          exact neither (Token.paren?_ofText noParen) noParen
      | true =>
          rcases Text.isParen_iff.mp paren with rfl | rfl
          · rfl
          · rfl

/-- The parentheses among the tokens of a layout are those among its characters, in the same
order. -/
theorem Layout.parens_eq {ts : List Token} {cs : List Char} (layout : Layout ts cs) :
    ts.filterMap Token.paren? = cs.filter Text.isParen := by
  induction layout with
  | nil => rfl
  | @blank c ts cs blank _ ih =>
      have noParen : Text.isParen c = false := by
        rw [← Bool.not_eq_true, Text.isParen_iff]
        rintro (rfl | rfl)
        · exact absurd blank (by decide)
        · exact absurd blank (by decide)
      rw [ih, List.filter_cons_of_neg (Bool.eq_false_iff.mp noParen)]
  | @token s t ts cs spells _ _ ih =>
      rw [List.filter_append, ← spells.parens_eq, ← ih, ← List.filterMap_append]
      rfl

/-- The tokens that open and that close are counted as parentheses. -/
theorem count_paren? (ts : List Token) :
    (ts.filterMap Token.paren?).count '(' = ts.count .openParen ∧
      (ts.filterMap Token.paren?).count ')' = ts.count .closeParen := by
  rw [List.count_filterMap, List.count_filterMap]
  constructor
  · exact List.countP_congr fun t _ => by cases t <;> simp [Token.paren?]
  · exact List.countP_congr fun t _ => by cases t <;> simp [Token.paren?]

/-- Of the characters, too, the parentheses alone are counted. -/
theorem count_filter_isParen (cs : List Char) :
    (cs.filter Text.isParen).count '(' = cs.count '(' ∧
      (cs.filter Text.isParen).count ')' = cs.count ')' :=
  ⟨List.count_filter rfl, List.count_filter rfl⟩

/-- The tokens of a layout open and close as many parentheses as its characters. -/
theorem Layout.count_eq {ts : List Token} {cs : List Char} (layout : Layout ts cs) :
    ts.count .openParen = cs.count '(' ∧ ts.count .closeParen = cs.count ')' := by
  obtain ⟨opening, closing⟩ := count_paren? ts
  obtain ⟨opening', closing'⟩ := count_filter_isParen cs
  rw [← layout.parens_eq] at opening' closing'
  exact ⟨opening.symm.trans opening', closing.symm.trans closing'⟩

/-- Up to some place the characters close more than they open. -/
def Overcloses (cs : List Char) : Prop :=
  ∃ before, before <+: cs ∧ before.count '(' < before.count ')'

instance (cs : List Char) : Decidable (Overcloses cs) :=
  decidable_of_iff (∃ n < cs.length + 1, (cs.take n).count '(' < (cs.take n).count ')')
    ⟨fun ⟨n, _, excess⟩ => ⟨cs.take n, List.take_prefix n cs, excess⟩,
      fun ⟨before, begins, excess⟩ =>
        ⟨before.length, Nat.lt_succ_of_le begins.length_le,
          List.prefix_iff_eq_take.mp begins ▸ excess⟩⟩

/-- Some beginning of what is kept of a list has a property exactly if what is kept of some
beginning of the list has it. -/
theorem exists_prefix_filterMap_iff {α β : Type} {f : α → Option β} {list : List α}
    {P : List β → Prop} :
    (∃ kept, kept <+: list.filterMap f ∧ P kept) ↔
      ∃ before, before <+: list ∧ P (before.filterMap f) := by
  constructor
  · rintro ⟨kept, begins, holds⟩
    obtain ⟨before, front, rfl⟩ := List.prefix_filterMap_iff.mp begins
    exact ⟨before, front, holds⟩
  · rintro ⟨before, front, holds⟩
    exact ⟨_, front.filterMap _, holds⟩

/-- The parentheses of a layout are opened **unless its characters close more than they
open**. -/
theorem Layout.opened_iff {ts : List Token} {cs : List Char} (layout : Layout ts cs) :
    Opened 0 ts ↔ ¬ Overcloses cs := by
  have parens := layout.parens_eq
  rw [← List.filterMap_eq_filter] at parens
  -- Both sides speak of the beginnings of the parentheses alone.
  have among : Overcloses cs ↔
      ∃ before, before <+: ts ∧ before.count .openParen < before.count .closeParen := by
    calc Overcloses cs
        ↔ ∃ before, before <+: cs ∧ (before.filterMap (Option.guard Text.isParen)).count '(' <
            (before.filterMap (Option.guard Text.isParen)).count ')' := by
          simp only [Overcloses, List.filterMap_eq_filter, count_filter_isParen]
      _ ↔ ∃ before, before <+: ts ∧ (before.filterMap Token.paren?).count '(' <
            (before.filterMap Token.paren?).count ')' := by
          rw [← exists_prefix_filterMap_iff (P := fun kept => kept.count '(' < kept.count ')'),
            ← exists_prefix_filterMap_iff (P := fun kept => kept.count '(' < kept.count ')'),
            parens]
      _ ↔ _ := by simp only [count_paren?]
  rw [among, Opened]
  simp only [Nat.zero_add, not_exists, not_and, Nat.not_lt]

/-! ### How tokens are written -/

/-- The characters that are another spelling of an operator, as which they are never
written. -/
def aliases : List Char := ['!', '&', '|', '=']

/-- Another spelling of an operator is no letter, and it is listed. -/
theorem characters_of_mem_aliases {c : Char} (mem : c ∈ aliases) :
    Text.isAlphanumeric c = false ∧ characters.lookup c ≠ none := by
  simp only [aliases, List.mem_cons, List.not_mem_nil, or_false] at mem
  rcases mem with rfl | rfl | rfl | rfl <;> decide +kernel

/-- The token is **written plainly**: its text is read as the token, and holds neither a
blank nor another spelling of an operator. -/
structure Plain (t : Token) : Prop where
  /-- The text is read as the token again. -/
  read : Token.ofText t.text = t
  /-- The text is not empty. -/
  some : t.text ≠ ""
  /-- The text holds no blank. -/
  noBlank : ∀ c ∈ t.text.toList, Text.isBlank c = false
  /-- The text holds no character that is another spelling of an operator. -/
  noAlias : ∀ c ∈ t.text.toList, c ∉ aliases
  /-- The text is no keyword, in whatever case. -/
  noKeyword : keyword? t.text = none

/-- An operator is written plainly. -/
theorem plain_operator (op : Operator) : Plain (.operator op) where
  read := Token.ofText_symbol op
  some := by
    obtain ⟨c, single, -⟩ := exists_isSign op
    intro empty
    rw [Token.text] at empty
    rw [empty] at single
    cases single
  noBlank := by
    obtain ⟨c, single, sign⟩ := exists_isSign op
    simpa [Token.text, single] using sign.noBlank
  noAlias := by
    have signs : (op.symbol.toList.all fun c => !aliases.contains c) = true := by
      rcases op with _ | c
      · decide +kernel
      · cases c <;> decide +kernel
    intro c mem other
    simpa [other] using List.all_eq_true.mp signs c mem
  noKeyword := by
    rcases op with _ | c
    · decide +kernel
    · cases c <;> decide +kernel

/-- What has a spelling **is written plainly**. -/
theorem Spells.plain {s : String} {t : Token} (spells : Spells s t) : Plain t := by
  cases spells with
  | word letters nonempty free =>
      constructor <;> rw [Token.text_ofText]
      · rintro rfl
        exact nonempty rfl
      · exact fun c mem => Text.isBlank_of_isAlphanumeric (Text.isWord_iff.mp letters c mem)
      · intro c mem other
        exact Text.not_mem_of_isWord letters (characters_of_mem_aliases other).1 mem
      · exact free
  | symbol | character | digraph | keyword => exact plain_operator _
  | @sign c noBlank sign free =>
      constructor <;> rw [Token.text_ofText]
      · exact fun empty => by simpa using congrArg String.toList empty
      · simpa using noBlank
      · rw [String.toList_singleton, List.forall_mem_singleton]
        exact fun other => (characters_of_mem_aliases other).2 free
      · cases read : keyword? (String.singleton c) with
        | none => rfl
        | some op =>
            have letter := Text.isWord_iff.mp (isWord_of_keyword? read).1 c (by simp)
            rw [sign] at letter
            cases letter

/-- The tokens of a layout **are written plainly**. -/
theorem Layout.plain {ts : List Token} {cs : List Char} (layout : Layout ts cs) :
    ∀ t ∈ ts, Plain t := by
  intro t mem
  exact (layout.spells_text t mem).plain

end Lexer

/-! ### The tokens of a text -/

/-- The tokens that are parentheses are written as these. -/
theorem map_text_filter_isParen (ts : List Token) :
    (ts.filter Token.isParen).map Token.text =
      (ts.filterMap Token.paren?).map String.singleton := by
  induction ts with
  | nil => rfl
  | cons t ts ih =>
      cases t with
      | openParen => exact congrArg ("(" :: ·) ih
      | closeParen => exact congrArg (")" :: ·) ih
      | _ => exact ih

/-- A text is blank, or its parentheses do not match, or it has tokens. -/
theorem tokens_outcome (text : String) :
    (∀ c ∈ text.toList, Text.isBlank c = true) ∧ tokens text = .error .empty ∨
      (¬ ∀ c ∈ text.toList, Text.isBlank c = true) ∧
        (Lexer.Overcloses text.toList ∧ tokens text = .error .unexpectedClosing ∨
          ¬ Lexer.Overcloses text.toList ∧
            (text.toList.count ')' < text.toList.count '(' ∧ tokens text = .error .missingClosing ∨
              ¬ text.toList.count ')' < text.toList.count '(' ∧ ∃ ts, tokens text = .ok ts)) := by
  by_cases blank : ∀ c ∈ text.toList, Text.isBlank c = true
  · rw [tokens, Text.isBlankText, List.all_eq_true.mpr blank]
    exact .inl ⟨blank, rfl⟩
  · refine .inr ⟨blank, ?_⟩
    obtain ⟨ts, found, layout⟩ := @Lexer.exists_layout_of_scan [] [] text.toList (by simp)
    have layout : Lexer.Layout ts text.toList := layout
    have checked : tokens text = (Lexer.checkParens 0 ts).map fun _ => ts := by
      rw [tokens, Text.isBlankText, Bool.eq_false_iff.mpr (mt List.all_eq_true.mp blank),
        if_neg Bool.false_ne_true, found]
      show (Lexer.checkParens 0 ts >>= fun _ => .ok ts) = _
      cases Lexer.checkParens 0 ts <;> rfl
    obtain ⟨opening, closing⟩ := layout.count_eq
    have outcome := Lexer.checkParens_outcome 0 ts
    rw [layout.opened_iff, Classical.not_not, opening, closing, Nat.zero_add] at outcome
    rw [checked]
    rcases outcome with ⟨excess, check⟩ | ⟨notOver, fewer, check⟩ | ⟨notOver, same, check⟩
    · rw [check]
      exact .inl ⟨excess, rfl⟩
    · rw [check]
      exact .inr ⟨notOver, .inl ⟨fewer, rfl⟩⟩
    · rw [check]
      exact .inr ⟨notOver, .inr ⟨Nat.not_lt.mpr (Nat.le_of_eq same.symm), ts, rfl⟩⟩

/-- Exactly the texts that are blank or whose parentheses do not match **have no tokens**,
and of these errors the blank text is told first and a closing parenthesis too many before an
open one. Every other text has tokens, among which its parentheses are in their order, and
which are all written plainly. -/
theorem tokens_rejects :
    (∀ text,
      (tokens text = .error .empty ↔ ∀ c ∈ text.toList, Text.isBlank c = true) ∧
      (tokens text = .error .unexpectedClosing ↔
        (∃ c ∈ text.toList, Text.isBlank c = false) ∧ Lexer.Overcloses text.toList) ∧
      (tokens text = .error .missingClosing ↔
        (∃ c ∈ text.toList, Text.isBlank c = false) ∧ ¬ Lexer.Overcloses text.toList ∧
          text.toList.count ')' < text.toList.count '(') ∧
      ((∃ c ∈ text.toList, Text.isBlank c = false) → ¬ Lexer.Overcloses text.toList →
        ¬ text.toList.count ')' < text.toList.count '(' →
        ∃ ts, tokens text = .ok ts ∧ ts ≠ [] ∧ (∀ t ∈ ts, Lexer.Plain t) ∧
          (ts.filter Token.isParen).map Token.text =
            (text.toList.filter Text.isParen).map String.singleton)) ∧
    FormulaError.empty.message = "formula must not be empty" ∧
    FormulaError.unexpectedClosing.message =
      "unbalanced parentheses: unexpected closing parenthesis" ∧
    FormulaError.missingClosing.message =
      "unbalanced parentheses: missing closing parenthesis" := by
  refine ⟨fun text => ?_, rfl, rfl, rfl⟩
  have notBlank : (∃ c ∈ text.toList, Text.isBlank c = false) ↔
      ¬ ∀ c ∈ text.toList, Text.isBlank c = true := by
    simp
  have outcome := tokens_outcome text
  rw [notBlank]
  generalize (∀ c ∈ text.toList, Text.isBlank c = true) = blank at outcome
  rcases outcome with ⟨isBlank, found⟩ | ⟨written, ⟨excess, found⟩ | ⟨notOver, outcome⟩⟩
  · simp [found, isBlank]
  · simp [found, written, excess]
  · rcases outcome with ⟨fewer, found⟩ | ⟨notFewer, ts, found⟩
    · simp [found, written, notOver, fewer]
    · obtain ⟨nonempty, -, layout⟩ := tokens_eq_ok_iff.mp found
      have parens : (ts.filter Token.isParen).map Token.text =
          (text.toList.filter Text.isParen).map String.singleton := by
        rw [map_text_filter_isParen, layout.parens_eq]
      refine ⟨?_, ?_, ?_, fun _ _ _ => ⟨ts, found, nonempty, layout.plain, parens⟩⟩
      · simp [found, written]
      · simp [found, notOver]
      · simp [found, notFewer]

/-- The text ` NOT(a)=>!b` has tokens that are written plainly, and in `a))((` a parenthesis
is closed that is not open. -/
theorem tokens_rejects_touching :
    (∃ ts, tokens " NOT(a)=>!b" = .ok ts ∧ ts ≠ [] ∧ (∀ t ∈ ts, Lexer.Plain t) ∧
      (ts.filter Token.isParen).map Token.text = ["(", ")"]) ∧
    tokens "a))((" = .error .unexpectedClosing := by
  obtain ⟨-, -, -, accepts⟩ := tokens_rejects.1 " NOT(a)=>!b"
  obtain ⟨-, closes, -, -⟩ := tokens_rejects.1 "a))(("
  refine ⟨accepts ⟨'N', by simp, by decide⟩ (by decide) (by decide), closes.mpr ⟨?_, by decide⟩⟩
  exact ⟨'a', by simp, by decide⟩

end Junctor
