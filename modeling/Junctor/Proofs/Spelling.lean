import Junctor.Proofs.Reading

/-!
# Spellings and Layouts

Every token is written as itself, and an operator also as a character, a digraph or a keyword
in any mixture of cases. The spellings of tokens follow one another in a text, with blanks
wherever one likes. Two spellings may touch unless they would be read as one: a word must not
run on into a word, and no `>` must follow a dash or an equals sign.

The scan undoes exactly this. What it finds are the tokens of which the text is a layout, and
of no other tokens it is one. A keyword in any case is a word, because the lower case of a
character is a small Latin letter only if the character is a letter.

## Main results

* `Lexer.Spells`, `Lexer.Layout`: the spellings of tokens, and the texts in which tokens are
  spelled.
* `Lexer.isWord_of_keyword?`: a keyword in any mixture of cases is a word.
* `Lexer.Layout.scan_eq`, `Lexer.exists_layout_of_scan`: the scan and the layouts undo each
  other.
* `Lexer.checkParens_outcome`: what the check of parentheses finds.
* `layout_read_back`: the tokens of a text, and of the text that is written anew from its
  tokens.
-/

namespace Junctor

/-! ### Keywords are words -/

namespace Text

/-- A character that is changed by going to lower case is in the list. -/
theorem exists_entry_of_lowercaseDistance {entries : List (Nat × Nat × Nat × Int)} {n : Nat}
    (moved : lowercaseDistance entries n ≠ 0) :
    ∃ entry ∈ entries, entry.1 ≤ n ∧ n ≤ entry.2.1 ∧ lowercaseDistance entries n = entry.2.2.2 := by
  induction entries with
  | nil => exact absurd rfl moved
  | cons entry rest ih =>
      obtain ⟨first, last, stride, distance⟩ := entry
      rw [lowercaseDistance] at moved ⊢
      split at moved
      · exact absurd rfl moved
      · next above =>
          rw [if_neg above]
          split at moved
          · next here =>
              rw [if_pos here]
              exact ⟨_, List.mem_cons_self, Nat.not_lt.mp above, here.1, rfl⟩
          · next elsewhere =>
              rw [if_neg elsewhere]
              obtain ⟨entry, mem, bounds⟩ := ih moved
              exact ⟨entry, by simp [mem], bounds⟩

/-- The code point of a small Latin letter lies between 97 and 122. -/
theorem bounds_of_isLower_ofNat {n : Nat} (small : (Char.ofNat n).isLower = true) :
    97 ≤ n ∧ n ≤ 122 := by
  have latin : 97 ≤ (Char.ofNat n).toNat ∧ (Char.ofNat n).toNat ≤ 122 := by
    have both : (decide ((Char.ofNat n).val ≥ 97) && decide ((Char.ofNat n).val ≤ 122)) =
        true := small
    simpa [UInt32.le_iff_toNat_le] using both
  by_cases valid : n.isValidChar
  · rwa [Char.ofNat, dif_pos valid] at latin
  · rw [Char.ofNat, dif_neg valid] at latin
    exact absurd latin.1 (by decide)

/-- Only the capital Latin letters and the sign for the kelvin are moved onto small Latin
letters. -/
theorem capital_or_kelvin_of_mem {entry : Nat × Nat × Nat × Int} (mem : entry ∈ lowercaseEntries)
    (low : 97 ≤ entry.2.1 + entry.2.2.2) (high : entry.1 + entry.2.2.2 ≤ 122) :
    entry.1 = 65 ∧ entry.2.1 = 90 ∨ entry.1 = 0x212A ∧ entry.2.1 = 0x212A := by
  have all : ∀ entry ∈ lowercaseEntries, 97 ≤ entry.2.1 + entry.2.2.2 →
      entry.1 + entry.2.2.2 ≤ 122 →
      entry.1 = 65 ∧ entry.2.1 = 90 ∨ entry.1 = 0x212A ∧ entry.2.1 = 0x212A := by
    decide +kernel
  exact all entry mem low high

/-- Only a letter becomes a small Latin letter in lower case. -/
theorem isLetter_of_lowercaseChar {c : Char} (small : ∀ d ∈ lowercaseChar c, d.isLower = true) :
    isLetter c = true := by
  have latin : ∀ k < 26, inRanges letterRanges (97 + k) = true := by decide
  have capital : ∀ k < 26, inRanges letterRanges (65 + k) = true := by decide
  have kelvin : inRanges letterRanges 0x212A = true := by decide +kernel
  rw [lowercaseChar] at small
  split at small
  · exact absurd (small '\u0307' (by simp)) (by decide)
  · have bounds := bounds_of_isLower_ofNat (small _ (List.mem_singleton_self _))
    by_cases same : lowercaseDistance lowercaseEntries c.toNat = 0
    · rw [same] at bounds
      have here := latin (c.toNat - 97) (by omega)
      rwa [Nat.add_sub_cancel' (by omega)] at here
    · obtain ⟨entry, mem, low, high, distance⟩ := exists_entry_of_lowercaseDistance same
      rw [distance] at bounds
      rcases capital_or_kelvin_of_mem mem (by omega) (by omega) with ⟨first, last⟩ | ⟨first, last⟩
      · have here := capital (c.toNat - 65) (by omega)
        rwa [Nat.add_sub_cancel' (by omega)] at here
      · have here : c.toNat = 0x212A := by omega
        rw [isLetter, here, kelvin]

/-- Only letters become small Latin letters in lower case. -/
theorem isLetter_of_lowercaseFrom {afterCased : Bool} {cs : List Char}
    (small : ∀ d ∈ lowercaseFrom afterCased cs, d.isLower = true) :
    ∀ c ∈ cs, isLetter c = true := by
  induction cs generalizing afterCased with
  | nil => intro c mem; cases mem
  | cons c rest ih =>
      rw [lowercaseFrom] at small
      intro d mem
      rcases List.mem_cons.mp mem with rfl | later
      · split at small
        · exact absurd (small 'ς' (by simp)) (by decide)
        · exact isLetter_of_lowercaseChar fun e at_e => small e (List.mem_append_left _ at_e)
      · exact ih (fun e at_e => small e (List.mem_append_right _ at_e)) d later

end Text

/-- What is found in a list of pairs is listed there. -/
theorem mem_of_lookup {α β : Type} [BEq α] [LawfulBEq α] {pairs : List (α × β)} {a : α} {b : β}
    (found : pairs.lookup a = some b) : (a, b) ∈ pairs := by
  obtain ⟨before, after, rfl, -⟩ := List.lookup_eq_some_iff.mp found
  exact List.mem_append_right _ List.mem_cons_self

namespace Lexer

/-- A keyword in any mixture of cases is a word, and not an empty one, although some capitals
are no ASCII letters. -/
theorem isWord_of_keyword? {s : String} {op : Operator} (read : keyword? s = some op) :
    Text.isWord s = true ∧ s.toList ≠ [] := by
  have small : keywords.all (fun entry =>
      !entry.1.toList.isEmpty && entry.1.toList.all Char.isLower) =
      true := by
    decide
  have entry := List.all_eq_true.mp small _ (mem_of_lookup read)
  rw [Bool.and_eq_true, Bool.not_eq_true', List.isEmpty_eq_false_iff, List.all_eq_true] at entry
  obtain ⟨nonempty, latin⟩ := entry
  rw [Text.lowercase, String.toList_ofList] at nonempty latin
  refine ⟨Text.isWord_iff.mpr fun c mem => ?_, ?_⟩
  · exact Text.isAlphanumeric_of_isLetter (Text.isLetter_of_lowercaseFrom latin c mem)
  · intro empty
    rw [empty] at nonempty
    exact nonempty rfl

/-! ### Spellings -/

/-- The text is a **spelling** of the token. Names and constants have one spelling each, and
operators have several. -/
inductive Spells : String → Token → Prop where
  /-- A word that is no keyword, in whatever case, spells itself. -/
  | word {s : String} (letters : Text.isWord s = true) (nonempty : s.toList ≠ [])
      (free : keyword? s = none) : Spells s (.ofText s)
  /-- A symbol spells its operator. -/
  | symbol (op : Operator) : Spells op.symbol (.operator op)
  /-- Some characters spell operators. -/
  | character {c : Char} {op : Operator} (listed : characters.lookup c = some op) :
      Spells (.singleton c) (.operator op)
  /-- So do the digraphs. -/
  | digraph {s : String} {op : Operator} (listed : (s, op) ∈ digraphs) : Spells s (.operator op)
  /-- So do the keywords, in any mixture of cases. -/
  | keyword {s : String} {op : Operator} (read : keyword? s = some op) : Spells s (.operator op)
  /-- Any other character that stands alone, such as a parenthesis, spells itself. -/
  | sign {c : Char} (noBlank : Text.isBlank c = false) (sign : Text.isAlphanumeric c = false)
      (free : characters.lookup c = none) : Spells (.singleton c) (.ofText (.singleton c))

/-- The spelling **may stand directly before** the characters, without being read as one with
what they begin with. -/
structure Apart (s : String) (cs : List Char) : Prop where
  /-- A word does not run on. -/
  word : Text.isWord s = true → Text.Separates cs
  /-- No digraph comes about. -/
  digraph : s = "-" ∨ s = "=" → cs.head? ≠ some '>'

instance : (cs : List Char) → Decidable (Text.Separates cs)
  | [] => isTrue Text.separates_nil
  | c :: rest =>
    decidable_of_iff (Text.isAlphanumeric c = false)
      ⟨fun sign => Text.separates_cons sign rest, fun separates => separates c rfl⟩

instance (s : String) (cs : List Char) : Decidable (Apart s cs) :=
  decidable_of_iff
    ((Text.isWord s = true → Text.Separates cs) ∧ (s = "-" ∨ s = "=" → cs.head? ≠ some '>'))
    ⟨fun ⟨word, digraph⟩ => ⟨word, digraph⟩, fun h => ⟨h.word, h.digraph⟩⟩

/-- The characters are a **layout** of the tokens: their spellings one after the other, and
blanks. -/
inductive Layout : List Token → List Char → Prop where
  | nil : Layout [] []
  /-- A blank may stand anywhere between spellings, before the first and behind the last
  one. -/
  | blank {c : Char} {ts : List Token} {cs : List Char} (blank : Text.isBlank c = true)
      (rest : Layout ts cs) : Layout ts (c :: cs)
  /-- A spelling may touch what follows unless it would be read as one with it. -/
  | token {s : String} {t : Token} {ts : List Token} {cs : List Char} (spells : Spells s t)
      (apart : Apart s cs) (rest : Layout ts cs) : Layout (t :: ts) (s.toList ++ cs)

/-! ### The scan of a layout -/

variable {found : List Token} {rest : List Char}

/-- A character that stands alone is read by itself, unless a digraph begins with it. -/
theorem scan_character {c : Char} (noBlank : Text.isBlank c = false)
    (sign : Text.isAlphanumeric c = false) (apart : c = '-' ∨ c = '=' → rest.head? ≠ some '>') :
    scan found [] (c :: rest) = scan (ofCharacter c :: found) [] rest := by
  have noArrow : ∀ tail, c = '-' → rest = '>' :: tail → False := by
    rintro tail dash rfl
    exact apart (.inl dash) rfl
  have noDoubleArrow : ∀ tail, c = '=' → rest = '>' :: tail → False := by
    rintro tail equals rfl
    exact apart (.inr equals) rfl
  rw [scan.eq_4 _ _ _ _ noArrow noDoubleArrow, noBlank, if_neg Bool.false_ne_true, sign,
    if_neg Bool.false_ne_true]
  rfl

/-- The scan **reads a spelling** as its token. -/
theorem Spells.scan_eq {s : String} {t : Token} (spells : Spells s t) (apart : Apart s rest) :
    scan found [] (s.toList ++ rest) = scan (t :: found) [] rest := by
  have alone {c : Char} (apart : Apart (.singleton c) rest) :
      c = '-' ∨ c = '=' → rest.head? ≠ some '>' := by
    rintro (rfl | rfl)
    · exact apart.digraph (.inl rfl)
    · exact apart.digraph (.inr rfl)
  cases spells with
  | word letters nonempty free => rw [scan_word letters nonempty (apart.word letters), ofWord, free]
  | symbol op => exact scan_operator op
  | @character c op listed =>
      have signs : ∀ entry ∈ characters, Text.isBlank entry.1 = false ∧
          Text.isAlphanumeric entry.1 = false := by
        decide
      obtain ⟨noBlank, sign⟩ := signs _ (mem_of_lookup listed)
      rw [String.toList_singleton, List.singleton_append, scan_character noBlank sign (alone apart),
        ofCharacter, listed]
  | digraph listed => exact scan_digraph listed found [] rest
  | keyword read =>
      obtain ⟨letters, nonempty⟩ := isWord_of_keyword? read
      rw [scan_word letters nonempty (apart.word letters), ofWord, read]
  | @sign c noBlank sign free =>
      rw [String.toList_singleton, List.singleton_append, scan_character noBlank sign (alone apart),
        ofCharacter, free]

/-- The scan of a layout **finds its tokens**, by induction on the layout from the left. -/
theorem Layout.scan_eq {ts : List Token} {cs : List Char} (layout : Layout ts cs) :
    scan found [] cs = found.reverse ++ ts := by
  induction layout generalizing found with
  | nil => rw [List.append_nil]; rfl
  | blank blank _ ih => rw [scan_blank blank, ih]
  | token spells apart _ ih => rw [spells.scan_eq apart, ih, List.reverse_cons, List.append_assoc,
      List.singleton_append]

/-! ### The layout of a scan -/

/-- A word is a spelling of the token that it is read as. -/
theorem spells_ofWord {s : String} (letters : Text.isWord s = true) (nonempty : s.toList ≠ []) :
    Spells s (ofWord s) := by
  unfold ofWord
  split
  · next read => exact .keyword read
  · next free => exact .word letters nonempty free

/-- A character that stands alone is a spelling of the token that it is read as. -/
theorem spells_ofCharacter {c : Char} (noBlank : Text.isBlank c = false)
    (sign : Text.isAlphanumeric c = false) : Spells (.singleton c) (ofCharacter c) := by
  unfold ofCharacter
  split
  · next listed => exact .character listed
  · next free => exact .sign noBlank sign free

/-- A digraph may touch whatever follows. -/
theorem apart_of_digraph {s : String} {op : Operator} (listed : (s, op) ∈ digraphs)
    (cs : List Char) : Apart s cs := by
  have signs : ∀ entry ∈ digraphs, Text.isWord entry.1 = false ∧ entry.1 ≠ "-" ∧ entry.1 ≠ "=" := by
    decide
  obtain ⟨noWord, noDash, noEquals⟩ := signs _ listed
  refine ⟨fun word => ?_, fun single => absurd single (not_or.mpr ⟨noDash, noEquals⟩)⟩
  rw [noWord] at word
  cases word

/-- A character that stands alone may touch what follows, unless a digraph begins with it. -/
theorem apart_singleton {c : Char} (sign : Text.isAlphanumeric c = false)
    (noArrow : ∀ tail, c = '-' → rest = '>' :: tail → False)
    (noDoubleArrow : ∀ tail, c = '=' → rest = '>' :: tail → False) : Apart (.singleton c) rest := by
  refine ⟨fun word => ?_, fun single first => ?_⟩
  · rw [Text.isWord_iff.mp word c (by simp)] at sign
    cases sign
  · obtain ⟨tail, behind⟩ := List.head?_eq_some_iff.mp first
    have same {d : Char} (h : String.singleton c = .singleton d) : c = d := by
      simpa using congrArg String.toList h
    rcases single with dash | equals
    · exact noArrow tail (same dash) behind
    · exact noDoubleArrow tail (same equals) behind

/-- In front of a layout that ends a word, a word that has begun is spelled. -/
theorem Layout.endWord {ts : List Token} {word cs : List Char} (layout : Layout ts cs)
    (letters : ∀ c ∈ word, Text.isAlphanumeric c = true) (separates : Text.Separates cs)
    (found : List Token) :
    ∃ us, (Lexer.endWord found word).reverse ++ ts = found.reverse ++ us ∧
      Layout us (word.reverse ++ cs) := by
  cases word with
  | nil => exact ⟨ts, rfl, layout⟩
  | cons c word =>
      have spelled : (String.ofList (c :: word).reverse).toList = (c :: word).reverse :=
        String.toList_ofList
      have isWord : Text.isWord (String.ofList (c :: word).reverse) = true := by
        refine Text.isWord_iff.mpr fun d mem => letters d ?_
        rwa [spelled, List.mem_reverse] at mem
      have noDigraph : String.ofList (c :: word).reverse = "-" ∨
          String.ofList (c :: word).reverse = "=" → cs.head? ≠ some '>' := by
        rintro (dash | equals)
        · rw [dash] at isWord
          exact absurd isWord (by decide)
        · rw [equals] at isWord
          exact absurd isWord (by decide)
      have longer := Layout.token (spells_ofWord isWord (by rw [spelled]; simp))
        ⟨fun _ => separates, noDigraph⟩ layout
      rw [spelled] at longer
      exact ⟨_, by simp [Lexer.endWord], longer⟩

/-- What the scan finds are **the tokens of a layout**, with the letters of the word that has
begun in front of the characters that are left. -/
theorem exists_layout_of_scan {word cs : List Char}
    (letters : ∀ c ∈ word, Text.isAlphanumeric c = true) :
    ∃ ts, scan found word cs = found.reverse ++ ts ∧ Layout ts (word.reverse ++ cs) := by
  have plain : ∀ c ∈ ([] : List Char), Text.isAlphanumeric c = true := fun _ mem => by cases mem
  -- What is found behind the word is put behind the token that ends it.
  have behind {t : Token} {found : List Token} {word rest cs : List Char}
      (letters : ∀ c ∈ word, Text.isAlphanumeric c = true) (separates : Text.Separates cs)
      (ih : ∃ ts, scan (t :: Lexer.endWord found word) [] rest =
        (t :: Lexer.endWord found word).reverse ++ ts ∧ Layout ts ([].reverse ++ rest))
      (here : ∀ ts, Layout ts rest → Layout (t :: ts) cs) :
      ∃ ts, scan (t :: Lexer.endWord found word) [] rest = found.reverse ++ ts ∧
        Layout ts (word.reverse ++ cs) := by
    obtain ⟨ts, scanned, layout⟩ := ih
    obtain ⟨us, same, longer⟩ := (here ts layout).endWord letters separates found
    refine ⟨us, ?_, longer⟩
    rw [scanned, ← same, List.reverse_cons, List.append_assoc, List.singleton_append]
  fun_induction scan found word cs with
  | case1 found word =>
      obtain ⟨us, same, layout⟩ := Layout.nil.endWord letters Text.separates_nil found
      exact ⟨us, by rw [← same, List.append_nil], layout⟩
  | case2 found word rest ih =>
      have listed : ("->", .binary .implies) ∈ digraphs := by decide
      exact behind letters (Text.separates_cons (by decide) _) (ih plain) fun ts layout =>
        .token (.digraph listed) (apart_of_digraph listed rest) layout
  | case3 found word rest ih =>
      have listed : ("=>", .binary .iff) ∈ digraphs := by decide
      exact behind letters (Text.separates_cons (by decide) _) (ih plain) fun ts layout =>
        .token (.digraph listed) (apart_of_digraph listed rest) layout
  | case4 found word c rest _ _ blank ih =>
      have notLetter := Text.isAlphanumeric_of_isBlank blank
      obtain ⟨ts, scanned, layout⟩ := ih plain
      obtain ⟨us, same, longer⟩ :=
        (layout.blank blank).endWord letters (Text.separates_cons notLetter _) found
      exact ⟨us, by rw [scanned, same], longer⟩
  | case5 found word c rest _ _ _ alphanumeric ih =>
      obtain ⟨ts, scanned, layout⟩ := ih fun d mem => by
        rcases List.mem_cons.mp mem with rfl | before
        · exact alphanumeric
        · exact letters d before
      rw [List.reverse_cons, List.append_assoc, List.singleton_append] at layout
      exact ⟨ts, scanned, layout⟩
  | case6 found word c rest noArrow noDoubleArrow noBlank sign ih =>
      rw [Bool.not_eq_true] at noBlank sign
      refine behind letters (Text.separates_cons sign _) (ih plain) fun ts layout => ?_
      have alone := Layout.token (spells_ofCharacter noBlank sign)
        (apart_singleton sign noArrow noDoubleArrow) layout
      rwa [String.toList_singleton, List.singleton_append] at alone

/-! ### Writing tokens anew -/

/-- A token that has a spelling is one of its spellings as it is written. -/
theorem Spells.text {s : String} {t : Token} (spells : Spells s t) : Spells t.text t := by
  cases spells with
  | word letters nonempty free => exact (Token.text_ofText s).symm ▸ .word letters nonempty free
  | symbol op => exact .symbol op
  | character listed => exact .symbol _
  | digraph listed => exact .symbol _
  | keyword read => exact .symbol _
  | sign noBlank sign free => exact (Token.text_ofText _).symm ▸ .sign noBlank sign free

/-- The tokens of a layout are spelled as they are written. -/
theorem Layout.spells_text {ts : List Token} {cs : List Char} (layout : Layout ts cs) :
    ∀ t ∈ ts, Spells t.text t := by
  induction layout with
  | nil => intro t mem; cases mem
  | blank _ _ ih => exact ih
  | token spells _ _ ih => exact List.forall_mem_cons.mpr ⟨spells.text, ih⟩

/-- Tokens with single spaces between them are a layout. -/
theorem layout_spaced {ts : List Token} (spelled : ∀ t ∈ ts, Spells t.text t) :
    Layout ts (" ".intercalate (ts.map Token.text)).toList := by
  have blank : Text.isBlank ' ' = true := by decide
  have space (s : String) (cs : List Char) : Apart s (' ' :: cs) :=
    ⟨fun _ => Text.separates_cons (by decide) cs, fun _ => by simp⟩
  induction ts with
  | nil => exact .nil
  | cons t ts ih =>
      obtain ⟨here, others⟩ := List.forall_mem_cons.mp spelled
      cases ts with
      | nil =>
          have last := Layout.token here ⟨fun _ => Text.separates_nil, fun _ => by decide⟩ .nil
          rwa [List.append_nil] at last
      | cons u ts =>
          have pieces : (" ".intercalate ((t :: u :: ts).map Token.text)).toList =
              t.text.toList ++ ' ' :: (" ".intercalate ((u :: ts).map Token.text)).toList := by
            rw [List.map_cons, List.map_cons, String.intercalate_cons_cons, String.toList_append,
              String.toList_append, List.append_assoc]
            rfl
          rw [pieces]
          exact .token here (space _ _) (.blank blank (ih others))

/-! ### Parentheses that match -/

/-- The parentheses among the tokens **are balanced**: none is closed before it is opened,
and none stays open. -/
structure Balanced (ts : List Token) : Prop where
  /-- None is closed that has not been opened. -/
  opened : ∀ before, before <+: ts → before.count .closeParen ≤ before.count .openParen
  /-- In the end all are closed. -/
  closed : ts.count .closeParen = ts.count .openParen

/-- What holds of all beginnings of a list holds of the empty one and of those that begin as
the list does. -/
theorem forall_prefix_cons {P : List Token → Prop} {t : Token} {ts : List Token} :
    (∀ before, before <+: t :: ts → P before) ↔
      P [] ∧ ∀ before, before <+: ts → P (t :: before) := by
  constructor
  · intro all
    refine ⟨all [] (List.nil_prefix), fun before begins => all _ ?_⟩
    exact List.prefix_cons_iff.mpr (.inr ⟨before, rfl, begins⟩)
  · rintro ⟨first, longer⟩ before begins
    rcases List.prefix_cons_iff.mp begins with rfl | ⟨rest, rfl, shorter⟩
    · exact first
    · exact longer rest shorter

/-- Up to no place are more parentheses closed than are open, of which `depth` are open at the
start. -/
def Opened (depth : Nat) (ts : List Token) : Prop :=
  ∀ before, before <+: ts → before.count .closeParen ≤ depth + before.count .openParen

/-- Behind a token it is enough to look at the places behind it, since in front of it nothing
is closed. -/
theorem opened_cons {depth : Nat} {t : Token} {ts : List Token} :
    Opened depth (t :: ts) ↔ ∀ before, before <+: ts →
      (t :: before).count .closeParen ≤ depth + (t :: before).count .openParen :=
  forall_prefix_cons.trans (and_iff_right (Nat.zero_le _))

/-- A token that is no parenthesis makes no difference to the check. -/
theorem checkParens_cons {depth : Nat} {t : Token} {ts : List Token} (other : t.isParen = false) :
    checkParens depth (t :: ts) = checkParens depth ts := by
  cases t with
  | openParen | closeParen => cases other
  | _ => rfl

/-- The check notices a closing parenthesis **as soon as it closes nothing**, and an open one
in the end. -/
theorem checkParens_outcome (depth : Nat) (ts : List Token) :
    ¬ Opened depth ts ∧ checkParens depth ts = .error .unexpectedClosing ∨
      Opened depth ts ∧ ts.count .closeParen < depth + ts.count .openParen ∧
        checkParens depth ts = .error .missingClosing ∨
      Opened depth ts ∧ ts.count .closeParen = depth + ts.count .openParen ∧
        checkParens depth ts = .ok () := by
  induction ts generalizing depth with
  | nil =>
      have opened : Opened depth [] := by
        intro before begins
        rw [List.prefix_nil.mp begins]
        exact Nat.zero_le _
      rw [checkParens]
      split
      · next closed => exact .inr (.inr ⟨opened, closed.symm, rfl⟩)
      · next waits => exact .inr (.inl ⟨opened, Nat.pos_of_ne_zero waits, rfl⟩)
  | cons t ts ih =>
      cases t with
      | openParen =>
          have deeper : Opened depth (.openParen :: ts) ↔ Opened (depth + 1) ts := by
            rw [opened_cons]
            simp [Opened, Nat.add_assoc, Nat.add_comm 1]
          rw [deeper, checkParens]
          simpa [Nat.add_assoc, Nat.add_comm 1] using ih (depth + 1)
      | closeParen =>
          cases depth with
          | zero =>
              refine .inl ⟨fun opened => ?_, rfl⟩
              exact absurd (opened_cons.mp opened [] List.nil_prefix) (by decide)
          | succ depth =>
              have higher : Opened (depth + 1) (.closeParen :: ts) ↔ Opened depth ts := by
                rw [opened_cons]
                simp [Opened, Nat.add_right_comm depth 1]
              rw [higher, checkParens]
              simpa [Nat.add_right_comm depth 1] using ih depth
      | var | const | operator | unknown =>
          rw [opened_cons, checkParens_cons rfl]
          simpa [Opened] using ih depth

/-- The check of a whole formula passes exactly if its parentheses are balanced. -/
theorem checkParens_zero_eq_ok_iff {ts : List Token} :
    checkParens 0 ts = .ok () ↔ Balanced ts := by
  have balanced : Balanced ts ↔ Opened 0 ts ∧ ts.count .closeParen = 0 + ts.count .openParen := by
    simp only [Opened, Nat.zero_add]
    exact ⟨fun h => ⟨h.opened, h.closed⟩, fun ⟨opened, closed⟩ => ⟨opened, closed⟩⟩
  rw [balanced]
  rcases checkParens_outcome 0 ts with ⟨excess, found⟩ | ⟨-, fewer, found⟩ | ⟨opened, closed, found⟩
  · exact iff_of_false (by rw [found]; nofun) fun h => excess h.1
  · exact iff_of_false (by rw [found]; nofun) fun h => Nat.ne_of_lt fewer h.2
  · exact iff_of_true found ⟨opened, closed⟩

/-- A layout of no tokens is blank. -/
theorem Layout.blank_of_eq_nil {ts : List Token} {cs : List Char} (layout : Layout ts cs)
    (empty : ts = []) : ∀ c ∈ cs, Text.isBlank c = true := by
  induction layout with
  | nil => intro c mem; cases mem
  | blank blank _ ih => exact List.forall_mem_cons.mpr ⟨blank, ih empty⟩
  | token => cases empty

end Lexer

/-! ### The tokens of a text -/

/-- A text has some tokens exactly if it is a layout of them, there are some, and their
parentheses are balanced. -/
theorem tokens_eq_ok_iff {text : String} {ts : List Token} :
    tokens text = .ok ts ↔ ts ≠ [] ∧ Lexer.Balanced ts ∧ Lexer.Layout ts text.toList := by
  constructor
  · intro read
    obtain ⟨scanned, matched⟩ := scan_of_tokens read
    obtain ⟨us, found, layout⟩ := @Lexer.exists_layout_of_scan [] [] text.toList (by simp)
    obtain rfl : ts = us := scanned.symm.trans found
    have layout : Lexer.Layout ts text.toList := layout
    refine ⟨fun empty => ?_, Lexer.checkParens_zero_eq_ok_iff.mp matched, layout⟩
    have notBlank := isBlankText_of_tokens read
    rw [Text.isBlankText, List.all_eq_true.mpr (layout.blank_of_eq_nil empty)] at notBlank
    cases notBlank
  · rintro ⟨nonempty, balanced, layout⟩
    have scanned : Lexer.scan [] [] text.toList = ts := layout.scan_eq
    exact tokens_eq_ok scanned nonempty (Lexer.checkParens_zero_eq_ok_iff.mpr balanced)

/-- Tokens that are written down in any layout **are read back**, as long as there are some
and their parentheses are balanced, and no other texts have tokens. In particular the tokens
of a text are those of the text that is written anew from them, with single spaces. -/
theorem layout_read_back :
    (∀ text ts, tokens text = .ok ts ↔
        ts ≠ [] ∧ Lexer.Balanced ts ∧ Lexer.Layout ts text.toList) ∧
      ∀ text ts, tokens text = .ok ts → tokens (" ".intercalate (ts.map Token.text)) = .ok ts := by
  refine ⟨fun text ts => tokens_eq_ok_iff, fun text ts read => ?_⟩
  obtain ⟨nonempty, balanced, layout⟩ := tokens_eq_ok_iff.mp read
  exact tokens_eq_ok_iff.mpr ⟨nonempty, balanced, Lexer.layout_spaced layout.spells_text⟩

/-- In ` nOt(a)=>b->!c` all spellings touch, among them a keyword, two digraphs and a
character for an operator. -/
theorem layout_read_back_touching :
    tokens " nOt(a)=>b->!c" = .ok [.operator .negation, .openParen, .var "a", .closeParen,
      .operator (.binary .iff), .var "b", .operator (.binary .implies), .operator .negation,
      .var "c"] := by
  have word {s : String} {t : Token} (letters : Text.isWord s = true) (nonempty : s.toList ≠ [])
      (read : Lexer.ofWord s = t) : Lexer.Spells s t :=
    read ▸ Lexer.spells_ofWord letters nonempty
  have sign {c : Char} {t : Token} (sign : Lexer.IsSign c t) : Lexer.Spells (.singleton c) t :=
    sign.read ▸ Lexer.spells_ofCharacter sign.noBlank sign.sign
  have layout : Lexer.Layout [.operator .negation, .openParen, .var "a", .closeParen,
      .operator (.binary .iff), .var "b", .operator (.binary .implies), .operator .negation,
      .var "c"] (' ' ::
      ("nOt".toList ++ ("(".toList ++ ("a".toList ++ (")".toList ++ ("=>".toList ++
        ("b".toList ++ ("->".toList ++ ("!".toList ++ ("c".toList ++ [])))))))))) :=
    .blank (by decide) <|
    .token (word (by decide) (by decide) (by decide)) (by decide) <|
    .token (sign Lexer.isSign_openParen) (by decide) <|
    .token (word (by decide) (by decide) (by decide)) (by decide) <|
    .token (sign Lexer.isSign_closeParen) (by decide) <|
    .token (.digraph (by decide)) (by decide) <|
    .token (word (by decide) (by decide) (by decide)) (by decide) <|
    .token (.digraph (by decide)) (by decide) <|
    .token (sign (c := '!') (by decide)) (by decide) <|
    .token (word (by decide) (by decide) (by decide)) (by decide) .nil
  refine (layout_read_back.1 _ _).mpr ⟨by decide, ?_, layout⟩
  exact Lexer.checkParens_zero_eq_ok_iff.mp rfl

end Junctor
