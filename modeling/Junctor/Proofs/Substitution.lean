import Junctor.Proofs.Replacement
import Junctor.Text.Replace

/-!
# Formulas in Place of Variables

Formulas may be put in place of variables in the tree, among the tokens and in the text.
There it needs texts that stand wherever a variable may: words and digraphs are kept apart at
both seams, parentheses match, and the tokens put out those of the formula and do nothing
else. Then all three come to the same, also for a text whose operators do not stand between
their operands, of which the grammar knows nothing.

Names are such texts, and so are texts in parentheses. These may be put in place of one
variable.

## Main results

* `Lexer.scan_mapWordsFrom`: the scan of a text with images in the place of its words.
* `Formula.parse_mapWords`: the formula that such a text is parsed as.
* `tokens_replaceWord`, `Formula.parse_replaceWord`: one variable gives way to a text in
  parentheses.
* `Formula.parse_enclosed`, `Formula.parse_not_enclosed`, `Formula.parse_binary_enclosed`:
  texts in parentheses by themselves, negated and joined.
* `Formula.substitution_in_text`: all of this in one statement.
-/

namespace Junctor

/-! ### Texts in place of names -/

namespace Lexer

/-- Parentheses that match close what they open and nothing else. -/
theorem checkParens_append {ts : List Token} {depth : Nat} (matched : checkParens depth ts = .ok ())
    (more : Nat) (us : List Token) :
    checkParens (depth + more) (ts ++ us) = checkParens more us := by
  induction ts generalizing depth with
  | nil =>
      rw [checkParens] at matched
      split at matched
      · next unmatched => rw [unmatched, Nat.zero_add, List.nil_append]
      · cases matched
  | cons t ts ih =>
      cases t with
      | openParen =>
          have inside := @ih (depth + 1) matched
          rw [Nat.add_right_comm] at inside
          exact inside
      | closeParen =>
          rcases depth with _ | depth
          · cases matched
          · have outside := @ih depth matched
            rw [Nat.add_right_comm]
            exact outside
      | var name => exact @ih depth matched
      | const value => exact @ih depth matched
      | operator op => exact @ih depth matched
      | unknown text => exact @ih depth matched

/-- Tokens in parentheses close what they open, if the tokens do. -/
theorem checkParens_enclosed {us : List Token} (matched : checkParens 0 us = .ok ()) (depth : Nat)
    (rest : List Token) : checkParens depth (enclosed us ++ rest) = checkParens depth rest := by
  have inside := checkParens_append matched (depth + 1) (.closeParen :: rest)
  rw [Nat.zero_add] at inside
  have whole : enclosed us ++ rest = .openParen :: (us ++ .closeParen :: rest) := by
    simp [enclosed]
  rw [whole, checkParens, inside]
  rfl

/-- Tokens are closed: their parentheses match, whatever stands before and after them. -/
def Closed (ts : List Token) : Prop :=
  ∀ depth rest, checkParens depth (ts ++ rest) = checkParens depth rest

/-- A variable is closed. -/
theorem closed_var (x : String) : Closed [.var x] := fun _ _ => rfl

/-- Tokens in parentheses are closed, if their own ones match. -/
theorem closed_enclosed {us : List Token} (matched : checkParens 0 us = .ok ()) :
    Closed (enclosed us) :=
  checkParens_enclosed matched

/-- Tokens that are closed in place of variables keep parentheses matching. -/
theorem checkParens_replaceVariables {images : String → List Token} {ts : List Token}
    (closed : ∀ x, .var x ∈ ts → Closed (images x)) (depth : Nat) :
    checkParens depth (replaceVariables images ts) = checkParens depth ts := by
  induction ts generalizing depth with
  | nil => rfl
  | cons t ts ih =>
      have rest := ih fun x mem => closed x (List.mem_cons_of_mem t mem)
      cases t with
      | var x => rw [replaceVariables_var, closed x (by simp)]; exact rest depth
      | closeParen =>
          cases depth with
          | zero => rfl
          | succ depth => exact rest depth
      | openParen => exact rest (depth + 1)
      | const value => exact rest depth
      | operator op => exact rest depth
      | unknown text => exact rest depth

/-- A word is read as no other variable than the one that it names. -/
theorem eq_of_ofWord_eq_var {word x : String} (h : ofWord word = .var x) : x = word := by
  unfold ofWord at h
  split at h
  · cases h
  · exact (of_ofText_eq_var h).1

/-- A text **stands for tokens** in the place of a word: it is read as these tokens, and
together with what stands before it no arrow is put together. -/
structure Stands (s : String) (ts : List Token) : Prop where
  /-- It is read as the tokens. -/
  reads : Reads s ts
  /-- It does not begin with the point of an arrow. -/
  begins : ∃ c ≠ '>', s.toList.head? = some c

/-- A word stands for itself. -/
theorem stands_word {w : String} (letters : Text.isWord w = true) (nonempty : w.toList ≠ []) :
    Stands w [ofWord w] where
  reads _ _ separates := scan_word letters nonempty separates
  begins := by
    obtain ⟨c, found⟩ := Option.isSome_iff_exists.mp (List.isSome_head?.mpr nonempty)
    refine ⟨c, ?_, found⟩
    rintro rfl
    exact absurd (Text.isWord_iff.mp letters '>' (List.mem_of_mem_head? found)) (by decide)

/-- A text in parentheses stands for its tokens in parentheses. -/
theorem stands_enclosed (s : String) :
    Stands ("(" ++ s ++ ")") (enclosed (scan [] [] s.toList)) where
  reads := reads_enclosed s
  begins := ⟨'(', by decide, by simp⟩

section

variable {image : String → String} {images : String → List Token}

/-- The images of all words stand for their tokens, with other tokens in place of variables. -/
def StandFor (image : String → String) (images : String → List Token) : Prop :=
  ∀ w, Text.isWord w = true → w.toList ≠ [] → Stands (image w) (replaceVariables images [ofWord w])

variable {found : List Token} {word rest : List Char}

/-- The letters of a word, the latest first, are a word. -/
theorem isWord_ofList_reverse (letters : ∀ c ∈ word, Text.isAlphanumeric c = true) :
    Text.isWord (String.ofList word.reverse) = true := by
  rw [Text.isWord_iff, String.toList_ofList]
  exact fun c mem => letters c (List.mem_reverse.mp mem)

/-- A word that is over is read as its image is. -/
theorem scan_wordImage (stand : StandFor image images)
    (letters : ∀ c ∈ word, Text.isAlphanumeric c = true) (separates : Text.Separates rest) :
    scan (replaceVariables (fun x => (images x).reverse) found) []
        (Text.wordImage image word ++ rest) =
      scan (replaceVariables (fun x => (images x).reverse) (endWord found word)) [] rest := by
  unfold endWord Text.wordImage
  split
  · rfl
  · next begun =>
      have nonempty : (String.ofList word.reverse).toList ≠ [] := by
        simpa [List.isEmpty_iff] using begun
      have stands := stand _ (isWord_ofList_reverse letters) nonempty
      have back := reverse_replaceVariables (fun x => (images x).reverse)
        [ofWord (String.ofList word.reverse)]
      simp only [List.reverse_reverse, List.reverse_singleton] at back
      rw [stands.reads _ rest separates, back, ← replaceVariables_append, List.singleton_append]

/-- No arrow is put together by replacing words. -/
theorem mapWordsFrom_ne_arrow (stand : StandFor image images) {c d : Char} {cs : List Char}
    (noArrow : ∀ tail, c = d → cs = '>' :: tail → False) :
    ∀ tail, c = d → Text.mapWordsFrom image [] cs = '>' :: tail → False := by
  intro tail same whole
  have apart : cs.head? ≠ some '>' := by
    intro first
    obtain ⟨tail, rfl⟩ := List.head?_eq_some_iff.mp first
    exact noArrow tail same rfl
  have other := @Text.head?_mapWordsFrom image '>' (fun word begun letters =>
    (stand _ (isWord_ofList_reverse letters) (by simpa using begun)).begins) cs apart
  rw [whole] at other
  exact other rfl

/-- The scan of a text with images in the place of its words finds the tokens **with other
ones in place of the variables**. -/
theorem scan_mapWordsFrom (stand : StandFor image images)
    (letters : ∀ c ∈ word, Text.isAlphanumeric c = true) (cs : List Char) :
    scan (replaceVariables (fun x => (images x).reverse) found) []
        (Text.mapWordsFrom image word cs) =
      replaceVariables images (scan found word cs) := by
  have nothing : ∀ c ∈ ([] : List Char), Text.isAlphanumeric c = true :=
    fun _ mem => absurd mem List.not_mem_nil
  have arrow : Text.isAlphanumeric '>' = false := by decide
  fun_induction scan found word cs with
  | case1 found word =>
      have read := @scan_wordImage image images found word [] stand letters Text.separates_nil
      rw [List.append_nil] at read
      rw [Text.mapWordsFrom, read, scan, ← reverse_replaceVariables]
      rfl
  | case2 found word cs ih =>
      have dash : Text.isAlphanumeric '-' = false := by decide
      rw [Text.mapWordsFrom_sign dash, Text.mapWordsFrom_sign arrow,
        scan_wordImage stand letters (Text.separates_cons dash _)]
      show scan _ [] ('-' :: '>' :: _) = _
      rw [scan, ← ih nothing]
      rfl
  | case3 found word cs ih =>
      have equals : Text.isAlphanumeric '=' = false := by decide
      rw [Text.mapWordsFrom_sign equals, Text.mapWordsFrom_sign arrow,
        scan_wordImage stand letters (Text.separates_cons equals _)]
      show scan _ [] ('=' :: '>' :: _) = _
      rw [scan, ← ih nothing]
      rfl
  | case4 found word c cs notArrow notDoubleArrow blank ih =>
      have sign := Text.isAlphanumeric_of_isBlank blank
      rw [Text.mapWordsFrom_sign sign, scan_wordImage stand letters (Text.separates_cons sign _),
        scan.eq_4 _ _ _ _ (mapWordsFrom_ne_arrow stand notArrow)
          (mapWordsFrom_ne_arrow stand notDoubleArrow), if_pos blank, ← ih nothing]
      rfl
  | case5 found word c cs _ _ _ alphanumeric ih =>
      rw [Text.mapWordsFrom, if_pos alphanumeric]
      exact ih (List.forall_mem_cons.mpr ⟨alphanumeric, letters⟩)
  | case6 found word c cs notArrow notDoubleArrow notBlank noLetter ih =>
      have sign : Text.isAlphanumeric c = false := by simpa using noLetter
      rw [Text.mapWordsFrom_sign sign, scan_wordImage stand letters (Text.separates_cons sign _),
        scan.eq_4 _ _ _ _ (mapWordsFrom_ne_arrow stand notArrow)
          (mapWordsFrom_ne_arrow stand notDoubleArrow), if_neg notBlank, if_neg noLetter,
        ← ih nothing, replaceVariables_cons (ofCharacter_ne_var noLetter)]
      rfl

/-- With images in the place of the words of a text, its tokens have other ones in place of the
variables. -/
theorem tokens_mapWords {context : String} {ts : List Token} (stand : StandFor image images)
    (read : tokens context = .ok ts) (closed : ∀ x, .var x ∈ ts → Closed (images x))
    (nonempty : replaceVariables images ts ≠ []) :
    tokens (Text.mapWords image context) = .ok (replaceVariables images ts) := by
  refine tokens_eq_ok ?_ nonempty ?_
  · have whole := @scan_mapWordsFrom image images [] [] stand (by simp) context.toList
    rw [(scan_of_tokens read).1] at whole
    rw [Text.mapWords, String.toList_ofList]
    exact whole
  · rw [checkParens_replaceVariables closed]
    exact (scan_of_tokens read).2

end

end Lexer

/-- In a text with another one in parentheses in place of a name, words stand for their
tokens, with those of the other in place of the variable. -/
theorem standFor_ite {s x : String} {us : List Token} (name : IsName x)
    (readImage : tokens s = .ok us) :
    Lexer.StandFor (fun w => if w = x then "(" ++ s ++ ")" else w)
      (Function.update (fun y => [.var y]) x (Lexer.enclosed us)) := by
  intro w letters nonempty
  rw [replaceVariables_update]
  dsimp only
  by_cases same : w = x
  · subst same
    rw [if_pos rfl, Lexer.ofWord_of_isName name, replaceVariable_var,
      ← (scan_of_tokens readImage).1]
    exact (List.append_nil _).symm ▸ Lexer.stands_enclosed s
  · have other : Lexer.ofWord w ≠ .var x := fun read => same (Lexer.eq_of_ofWord_eq_var read).symm
    rw [if_neg same, replaceVariable_cons other]
    exact Lexer.stands_word letters nonempty

/-- Tokens in parentheses that match in place of one variable and the others by themselves are
closed. -/
theorem closed_update (x : String) {us : List Token} (matched : Lexer.checkParens 0 us = .ok ())
    (y : String) :
    Lexer.Closed (Function.update (fun y => [.var y]) x (Lexer.enclosed us) y) := by
  by_cases same : y = x
  · subst same
    rw [Function.update_self]
    exact Lexer.closed_enclosed matched
  · rw [Function.update_of_ne same]
    exact Lexer.closed_var y

/-- A text with another one in parentheses in place of a name has the tokens **with those of
the other in parentheses in place of the variable**. -/
theorem tokens_replaceWord {context s x : String} {ts us : List Token}
    (read : tokens context = .ok ts) (readImage : tokens s = .ok us) (mem : .var x ∈ ts) :
    tokens (Text.replaceWord x ("(" ++ s ++ ")") context) =
      .ok (replaceVariable x (Lexer.enclosed us) ts) := by
  have name := isName_of_mem_tokens read mem
  rw [← Text.mapWords_ite name.ne_empty, ← replaceVariables_update]
  refine Lexer.tokens_mapWords (standFor_ite name readImage) read
    (fun y _ => closed_update x (scan_of_tokens readImage).2 y) ?_
  obtain ⟨before, after, rfl⟩ := List.append_of_mem mem
  rw [replaceVariables_append, replaceVariables_var, Function.update_self]
  simp [Lexer.enclosed]

/-! ### Formulas in place of variables -/

namespace Formula

variable {context s t x : String} {f g h : Formula}

/-- A formula has tokens. -/
theorem postorder_ne_nil (f : Formula) : f.postorder ≠ [] := by
  cases f with
  | var name => exact List.cons_ne_nil _ _
  | const value => exact List.cons_ne_nil _ _
  | not a => exact List.append_ne_nil_of_right_ne_nil _ (List.cons_ne_nil _ _)
  | binary c a b => exact List.append_ne_nil_of_right_ne_nil _ (List.cons_ne_nil _ _)

/-- With images in the place of its words, a text is parsed as the formula **with others in
place of its variables**, if what the images stand for is closed and puts out the other
formulas. -/
theorem parse_mapWords {image : String → String} {images : String → List Token}
    {formulas : String → Formula} (stand : Lexer.StandFor image images)
    (parsed : parse context = .ok f) (closed : ∀ x ∈ f.names, Lexer.Closed (images x))
    (puts : ∀ x ∈ f.names, Yard.Puts (images x) (formulas x).postorder) :
    parse (Text.mapWords image context) = .ok (f.subst formulas) := by
  obtain ⟨ts, read, order⟩ := parse_eq_ok_iff.mp parsed
  have occurs {x : String} (mem : .var x ∈ ts) : x ∈ f.names := (mem_names_iff_mem order).mpr mem
  have image_order : toReversePolish (replaceVariables images ts) =
      .ok (f.subst formulas).postorder := by
    rw [toReversePolish_replaceVariables fun x mem => puts x (occurs mem), order, postorder_subst]
    rfl
  have nonempty : replaceVariables images ts ≠ [] := by
    intro empty
    rw [empty] at image_order
    exact postorder_ne_nil _ (Except.ok.inj image_order).symm
  exact parse_eq_ok_iff.mpr
    ⟨_, Lexer.tokens_mapWords stand read (fun x mem => closed x (occurs mem)) nonempty, image_order⟩

/-- A text with another one in parentheses in place of a name is parsed as the formula **with
that of the other in place of the variable**. -/
theorem parse_replaceWord (parsed : parse context = .ok f) (parsedImage : parse s = .ok g)
    (mem : x ∈ f.names) :
    parse (Text.replaceWord x ("(" ++ s ++ ")") context) =
      .ok (f.subst (Function.update .var x g)) := by
  obtain ⟨us, readImage, orderImage⟩ := parse_eq_ok_iff.mp parsedImage
  have name := isName_of_mem_names parsed mem
  rw [← Text.mapWords_ite name.ne_empty]
  refine parse_mapWords (standFor_ite name readImage) parsed
    (fun y _ => closed_update x (scan_of_tokens readImage).2 y) fun y _ => ?_
  by_cases same : y = x
  · subst same
    rw [Function.update_self, Function.update_self]
    exact Yard.puts_enclosed orderImage
  · rw [Function.update_of_ne same, Function.update_of_ne same]
    exact Yard.puts_var y

/-- A formula with another one in place of a variable has the value that it has with the
variable bound to the value of the other. -/
theorem eval_subst_update (v : String → Bool) (x : String) (f g : Formula) :
    (f.subst (Function.update .var x g)).eval v = f.eval (Function.update v x (g.eval v)) := by
  rw [eval_subst]
  congr 1
  funext y
  by_cases same : y = x
  · subst same
    simp
  · simp [same, eval]

/-- A text in parentheses is parsed **like the text**, since the parentheses are gone when
the tree is built. -/
theorem parse_enclosed (parsed : parse s = .ok g) : parse ("(" ++ s ++ ")") = .ok g := by
  obtain ⟨us, read, order⟩ := parse_eq_ok_iff.mp parsed
  have reads := Lexer.reads_enclosed s
  rw [(scan_of_tokens read).1] at reads
  have matched := Lexer.checkParens_enclosed (scan_of_tokens read).2 0 []
  rw [List.append_nil] at matched
  refine parse_eq_ok_iff.mpr
    ⟨_, tokens_eq_ok reads.scan_eq (by simp [Lexer.enclosed]) matched, ?_⟩
  rw [toReversePolish, Yard.puts_enclosed order]
  simp [Yard.finish, Yard.release, bind, Except.bind]

/-- A negation sign before a text in parentheses **negates its formula**. -/
theorem parse_not_enclosed (parsed : parse s = .ok g) :
    parse ("¬(" ++ s ++ ")") = .ok (.not g) := by
  obtain ⟨us, read, order⟩ := parse_eq_ok_iff.mp parsed
  have pieces : "¬(" ++ s ++ ")" = "¬" ++ ("(" ++ s ++ ")") := by
    simp only [← String.append_assoc]
    rfl
  have reads := (Lexer.reads_enclosed s).negated
  rw [(scan_of_tokens read).1] at reads
  have matched : Lexer.checkParens 0 (.operator .negation :: Lexer.enclosed us) = .ok () := by
    have inside := Lexer.checkParens_enclosed (scan_of_tokens read).2 0 []
    rw [List.append_nil] at inside
    exact inside
  have waits : Yard.step {} (.operator .negation) = .ok ⟨[], [.operator .negation]⟩ := rfl
  rw [pieces]
  refine parse_eq_ok_iff.mpr ⟨_, tokens_eq_ok reads.scan_eq (by simp) matched, ?_⟩
  rw [toReversePolish, Yard.run_cons_of_eq_ok waits, Yard.puts_enclosed order]
  simp [Yard.finish, Yard.release, postorder, bind, Except.bind]

/-- A connective between texts in parentheses **joins their formulas**. -/
theorem parse_binary_enclosed (parsedLeft : parse s = .ok g) (parsedRight : parse t = .ok h)
    (c : Connective) :
    parse ("(" ++ s ++ ") " ++ c.symbol ++ " (" ++ t ++ ")") = .ok (.binary c g h) := by
  obtain ⟨us, readLeft, orderLeft⟩ := parse_eq_ok_iff.mp parsedLeft
  obtain ⟨ts, readRight, orderRight⟩ := parse_eq_ok_iff.mp parsedRight
  have pieces : "(" ++ s ++ ") " ++ c.symbol ++ " (" ++ t ++ ")" =
      ("(" ++ s ++ ")") ++ (" " ++ c.symbol ++ " ") ++ ("(" ++ t ++ ")") := by
    rw [← String.toList_inj]
    simp [String.toList_append]
  have reads := (Lexer.reads_enclosed s).joined (Lexer.reads_enclosed t) c
  rw [(scan_of_tokens readLeft).1, (scan_of_tokens readRight).1] at reads
  have matched : Lexer.checkParens 0
      (Lexer.enclosed us ++ .operator (.binary c) :: Lexer.enclosed ts) = .ok () := by
    have right := Lexer.checkParens_enclosed (scan_of_tokens readRight).2 0 []
    rw [List.append_nil] at right
    rw [Lexer.checkParens_enclosed (scan_of_tokens readLeft).2]
    exact right
  have waits (output : List Token) : Yard.step ⟨output, []⟩ (.operator (.binary c)) =
      .ok ⟨output, [.operator (.binary c)]⟩ := rfl
  rw [pieces]
  refine parse_eq_ok_iff.mpr ⟨_, tokens_eq_ok reads.scan_eq (by simp) matched, ?_⟩
  rw [toReversePolish, Yard.run_append_of_eq_ok (Yard.puts_enclosed orderLeft {}),
    Yard.run_cons_of_eq_ok (waits _), Yard.puts_enclosed orderRight]
  simp [Yard.finish, Yard.release, postorder, bind, Except.bind]

/-- Substitution in the text **is substitution in the formula**. Where a text in parentheses
takes the place of every occurrence of a variable in another text, its tokens in parentheses
take the place of the variable among the tokens of the other, its formula takes the place of
the variable in the formula of the other, and the value is that of the other with the
variable bound to the value of the text. In particular a text in parentheses may be read by
itself, negated and joined with another one. -/
theorem substitution_in_text :
    (∀ (context s x : String) (f g : Formula), parse context = .ok f → parse s = .ok g →
      x ∈ f.names →
        (∃ ts us, tokens context = .ok ts ∧ tokens s = .ok us ∧
          tokens (Text.replaceWord x ("(" ++ s ++ ")") context) =
            .ok (replaceVariable x (Lexer.enclosed us) ts)) ∧
        ∃ h, parse (Text.replaceWord x ("(" ++ s ++ ")") context) = .ok h ∧
          h = f.subst (Function.update .var x g) ∧
          (∀ v, h.eval v = f.eval (Function.update v x (g.eval v))) ∧
          ∀ (valuation : Valuation) (value : Bool), evaluate valuation g.postorder = .ok value →
            evaluate valuation h.postorder =
              evaluate (Function.update valuation x (some value)) f.postorder) ∧
    (∀ (s : String) (g : Formula), parse s = .ok g →
      parse ("(" ++ s ++ ")") = .ok g ∧ parse ("¬(" ++ s ++ ")") = .ok (.not g)) ∧
    ∀ (s t : String) (g h : Formula) (c : Connective), parse s = .ok g → parse t = .ok h →
      parse ("(" ++ s ++ ") " ++ c.symbol ++ " (" ++ t ++ ")") = .ok (.binary c g h) := by
  refine ⟨fun context s x f g parsed parsedImage mem => ⟨?_, ?_⟩,
    fun s g parsed => ⟨parse_enclosed parsed, parse_not_enclosed parsed⟩,
    fun s t g h c parsedLeft parsedRight => parse_binary_enclosed parsedLeft parsedRight c⟩
  · obtain ⟨ts, read, order⟩ := parse_eq_ok_iff.mp parsed
    obtain ⟨us, readImage, -⟩ := parse_eq_ok_iff.mp parsedImage
    have occurs : .var x ∈ ts := mem_of_mem_toReversePolish order (mem_names_iff.mp mem)
    exact ⟨ts, us, read, readImage, tokens_replaceWord read readImage occurs⟩
  · refine ⟨_, parse_replaceWord parsed parsedImage mem, rfl,
      fun v => eval_subst_update v x f g, fun valuation value valued => ?_⟩
    rw [postorder_subst_update, evaluate_replaceVariable valued]

/-- In `a a2 ∧`, whose operator does not stand between its operands, `a` gives way to
`b or !c`, and `a2`, which is another word, stays. -/
theorem substitution_in_text_postfix :
    ∃ h, parse "(b or !c) a2 ∧" = .ok h ∧
      h = .binary .and (.binary .or (.var "b") (.not (.var "c"))) (.var "a2") ∧
      parse "¬(b or !c)" = .ok (.not (.binary .or (.var "b") (.not (.var "c")))) ∧
      parse "(a a2 ∧) ↔ (b or !c)" =
        .ok (.binary .iff (.binary .and (.var "a") (.var "a2"))
          (.binary .or (.var "b") (.not (.var "c")))) := by
  have parsed : parse "a a2 ∧" = .ok (.binary .and (.var "a") (.var "a2")) :=
    eq_ok_of_toOption (by decide +kernel)
  have parsedImage : parse "b or !c" = .ok (.binary .or (.var "b") (.not (.var "c"))) :=
    eq_ok_of_toOption (by decide +kernel)
  obtain ⟨inContext, alone, joined⟩ := substitution_in_text
  obtain ⟨-, h, found, same, -⟩ := inContext _ _ "a" _ _ parsed parsedImage (by decide)
  have text : Text.replaceWord "a" ("(" ++ "b or !c" ++ ")") "a a2 ∧" = "(b or !c) a2 ∧" := by
    decide +kernel
  have negated : "¬(" ++ "b or !c" ++ ")" = "¬(b or !c)" := by decide +kernel
  have both : "(" ++ "a a2 ∧" ++ ") " ++ Connective.iff.symbol ++ " (" ++ "b or !c" ++ ")" =
      "(a a2 ∧) ↔ (b or !c)" := by
    decide +kernel
  exact ⟨h, text ▸ found, same.trans (by decide), negated ▸ (alone _ _ parsedImage).2,
    both ▸ joined _ _ _ _ .iff parsed parsedImage⟩

end Formula

end Junctor
