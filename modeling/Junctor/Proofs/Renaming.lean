import Junctor.Proofs.Substitution

/-!
# Other Names for the Variables

The variables of a text are renamed where they stand: a word that is read as a variable gives
way to its new name, and every other word stays. A name stands for its variable wherever it
is, and so to rename the variables of a text is to put variables in place of the variables of
its formula.

Nothing is assumed of new names for words that are no variables of the text, because such
words do not come up in it.

## Main results

* `Lexer.rename`: the text with other names.
* `Lexer.mapWordsFrom_congr`: only the words that come up in a text matter for their images.
* `Formula.parse_rename`: the formula that a text with other names is parsed as.
* `Formula.mem_names_rename`, `Formula.eval_rename`: its variables and its values.
-/

namespace Junctor

variable {ρ : String → String}

namespace Lexer

/-- The new name of a word that is read as a variable, and any other word itself. -/
def renamedWord (ρ : String → String) (w : String) : String :=
  if (ofWord w).isVariable then ρ w else w

/-- The text with **other names** for its variables. -/
def rename (ρ : String → String) (text : String) : String := Text.mapWords (renamedWord ρ) text

/-- If names get names, words with other names stand for other variables. -/
theorem standFor_renamedWord (names : ∀ x, IsName x → IsName (ρ x)) :
    StandFor (renamedWord ρ) fun x => [.var (ρ x)] := by
  intro w letters nonempty
  have itself := stands_word letters nonempty
  unfold renamedWord
  cases read : ofWord w with
  | var x =>
      obtain rfl := eq_of_ofWord_eq_var read
      have name := names x (isName_of_ofWord_eq_var read letters)
      have stands := stands_word name.word name.toList_ne_nil
      rwa [ofWord_of_isName name] at stands
  | const value => rw [read] at itself; exact itself
  | operator op => rw [read] at itself; exact itself
  | openParen => rw [read] at itself; exact itself
  | closeParen => rw [read] at itself; exact itself
  | unknown text => rw [read] at itself; exact itself

/-- What was found before is found in the end. -/
theorem mem_scan_of_mem {found : List Token} {t : Token} (mem : t ∈ found) (word cs : List Char) :
    t ∈ scan found word cs := by
  have earlier := scan_append [] found word cs
  rw [List.nil_append] at earlier
  rw [earlier]
  exact List.mem_append_left _ (List.mem_reverse.mpr mem)

/-- Only the words that come up in a text matter for their images, so that two images which
agree there give the same text. -/
theorem mapWordsFrom_congr {image other : String → String} {found : List Token}
    {word cs : List Char} (agree : ∀ w, ofWord w ∈ scan found word cs → image w = other w) :
    Text.mapWordsFrom image word cs = Text.mapWordsFrom other word cs := by
  have ended {found : List Token} {word : List Char}
      (agree : ∀ w, ofWord w ∈ endWord found word → image w = other w) :
      Text.wordImage image word = Text.wordImage other word := by
    unfold endWord at agree
    unfold Text.wordImage
    split
    · rfl
    · next begun =>
        rw [if_neg begun] at agree
        rw [agree _ (List.mem_cons_self ..)]
  have arrow : Text.isAlphanumeric '>' = false := by decide
  revert agree
  fun_induction scan found word cs with
  | case1 found word =>
      intro agree
      exact ended fun w mem => agree w (List.mem_reverse.mpr mem)
  | case2 found word cs ih =>
      intro agree
      have dash : Text.isAlphanumeric '-' = false := by decide
      rw [Text.mapWordsFrom_sign dash, Text.mapWordsFrom_sign arrow, Text.mapWordsFrom_sign dash,
        Text.mapWordsFrom_sign arrow, ih agree,
        ended fun w mem => agree w (mem_scan_of_mem (List.mem_cons_of_mem _ mem) _ _)]
      rfl
  | case3 found word cs ih =>
      intro agree
      have equals : Text.isAlphanumeric '=' = false := by decide
      rw [Text.mapWordsFrom_sign equals, Text.mapWordsFrom_sign arrow,
        Text.mapWordsFrom_sign equals, Text.mapWordsFrom_sign arrow, ih agree,
        ended fun w mem => agree w (mem_scan_of_mem (List.mem_cons_of_mem _ mem) _ _)]
      rfl
  | case4 found word c cs _ _ blank ih =>
      intro agree
      have sign := Text.isAlphanumeric_of_isBlank blank
      rw [Text.mapWordsFrom_sign sign, Text.mapWordsFrom_sign sign, ih agree,
        ended fun w mem => agree w (mem_scan_of_mem mem _ _)]
  | case5 found word c cs _ _ _ alphanumeric ih =>
      intro agree
      rw [Text.mapWordsFrom, Text.mapWordsFrom, if_pos alphanumeric, if_pos alphanumeric, ih agree]
  | case6 found word c cs _ _ _ noLetter ih =>
      intro agree
      have sign : Text.isAlphanumeric c = false := by simpa using noLetter
      rw [Text.mapWordsFrom_sign sign, Text.mapWordsFrom_sign sign, ih agree,
        ended fun w mem => agree w (mem_scan_of_mem (List.mem_cons_of_mem _ mem) _ _)]

end Lexer

namespace Formula

variable {text : String} {f : Formula}

/-- The formula with **other names** for its variables. -/
def rename (ρ : String → String) (f : Formula) : Formula := f.subst fun x => .var (ρ x)

/-- Only the variables that occur get other names. -/
theorem rename_congr {ρ other : String → String} (agree : ∀ x ∈ f.names, ρ x = other x) :
    f.rename ρ = f.rename other := by
  unfold rename
  induction f with
  | var name => exact congrArg var (agree name (by simp [names]))
  | const value => rfl
  | not a ih => exact congrArg not (ih agree)
  | binary c a b ihA ihB =>
      have left := ihA fun x mem => agree x (by simp [names, mem])
      have right := ihB fun x mem => agree x (by simp [names, mem])
      rw [subst, subst, left, right]

/-- The variables of a formula with other names are **the new names** of its variables. -/
theorem mem_names_rename {x : String} : x ∈ (f.rename ρ).names ↔ ∃ y ∈ f.names, ρ y = x := by
  induction f with
  | var name => simp [rename, subst, names, eq_comm]
  | const value => simp [rename, subst, names]
  | not a ih => exact ih
  | binary c a b ihA ihB =>
      rw [rename] at ihA ihB ⊢
      simp only [subst, names, mem_unionNames, ihA, ihB, or_and_right, exists_or]

/-- A formula with other names has **the value of the formula** where its variables have
those of their new names. -/
theorem eval_rename (v : String → Bool) (f : Formula) :
    (f.rename ρ).eval v = f.eval fun x => v (ρ x) :=
  eval_subst _ v f

/-- **A text with other names for its variables** is parsed as its formula with these names. -/
theorem parse_rename (parsed : parse text = .ok f) (names : ∀ x ∈ f.names, IsName (ρ x)) :
    parse (Lexer.rename ρ text) = .ok (f.rename ρ) := by
  -- Names that are no variables of the formula do not come up, and so they may as well stay.
  let total (x : String) : String := if x ∈ f.names then ρ x else x
  have agree : ∀ x ∈ f.names, ρ x = total x := fun x mem => (if_pos mem).symm
  have total_names : ∀ x, IsName x → IsName (total x) := by
    intro x name
    by_cases mem : x ∈ f.names
    · rw [← agree x mem]
      exact names x mem
    · have stays : total x = x := if_neg mem
      rwa [stays]
  obtain ⟨ts, read, order⟩ := parse_eq_ok_iff.mp parsed
  have same : Lexer.rename ρ text = Lexer.rename total text := by
    refine congrArg String.ofList (@Lexer.mapWordsFrom_congr _ _ [] _ _ fun w mem => ?_)
    rw [(scan_of_tokens read).1] at mem
    unfold Lexer.renamedWord
    cases found : Lexer.ofWord w with
    | var x =>
        obtain rfl := Lexer.eq_of_ofWord_eq_var found
        exact agree x ((mem_names_iff_mem order).mpr (found ▸ mem))
    | _ => rfl
  rw [same, rename_congr agree]
  exact parse_mapWords (Lexer.standFor_renamedWord total_names) parsed
    (fun x _ => Lexer.closed_var (total x)) fun x _ => Yard.puts_var (total x)

end Formula

end Junctor
