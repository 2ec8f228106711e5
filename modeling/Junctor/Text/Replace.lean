import Junctor.Text.Alphanumeric

/-!
# Replacing Words

The words of a text are its longest runs of alphanumeric characters. A word is replaced as a
whole: where its letters stand inside a longer word, they are left alone, and so is
everything that is no word. All words may be replaced at once, each by an image of its own,
or one of them only.

## Main results

* `mapWords`: a text with its image in the place of every word.
* `replaceWord`: a text with another one in place of every occurrence of a word.
* `mapWords_ite`: to replace one word is to replace all of them, the others by themselves.
* `head?_mapWordsFrom`: replacing words puts no sign in front that was not there before.
-/

namespace Junctor.Text

/-- The image of a word that is over, if one has begun; its latest letter comes first. -/
def wordImage (image : String → String) (word : List Char) : List Char :=
  if word.isEmpty then [] else (image (String.ofList word.reverse)).toList

/-- The characters that are left with its image in the place of every word, after the letters
of a word that has begun. -/
def mapWordsFrom (image : String → String) (word : List Char) : List Char → List Char
  | [] => wordImage image word
  | c :: rest =>
    if isAlphanumeric c then mapWordsFrom image (c :: word) rest
    else wordImage image word ++ c :: mapWordsFrom image [] rest

/-- The text with its image **in the place of every word**, everything between the words
being left as it is. -/
def mapWords (image : String → String) (s : String) : String :=
  String.ofList (mapWordsFrom image [] s.toList)

/-- A word that is over, or what comes in its place; its latest letter comes first. -/
def wordReplaced (name image word : List Char) : List Char :=
  if word.reverse = name then image else word.reverse

/-- The characters that are left with `image` in place of every word that is `name`, after the
letters of a word that has begun. -/
def replaceFrom (name image word : List Char) : List Char → List Char
  | [] => wordReplaced name image word
  | c :: rest =>
    if isAlphanumeric c then replaceFrom name image (c :: word) rest
    else wordReplaced name image word ++ c :: replaceFrom name image [] rest

/-- The text with `image` **in place of every word** that is `name`, which must not be
empty. -/
def replaceWord (name image s : String) : String :=
  String.ofList (replaceFrom name.toList image.toList [] s.toList)

/-! ### One word -/

/-- To replace one word is to replace all of them, the others by themselves. -/
theorem mapWordsFrom_ite {name : String} (nonempty : name ≠ "") (image : String)
    (word cs : List Char) :
    mapWordsFrom (fun w => if w = name then image else w) word cs =
      replaceFrom name.toList image.toList word cs := by
  have ended (word : List Char) : wordImage (fun w => if w = name then image else w) word =
      wordReplaced name.toList image.toList word := by
    have same : String.ofList word.reverse = name ↔ word.reverse = name.toList := by
      rw [← String.toList_inj, String.toList_ofList]
    unfold wordImage wordReplaced
    split
    · next unmatched =>
        obtain rfl := List.isEmpty_iff.mp unmatched
        have other : ([] : List Char) ≠ name.toList := fun empty =>
          nonempty (String.toList_inj.mp empty.symm)
        rw [List.reverse_nil, if_neg other]
    · dsimp only
      by_cases here : word.reverse = name.toList
      · rw [if_pos (same.mpr here), if_pos here]
      · rw [if_neg (mt same.mp here), if_neg here, String.toList_ofList]
  induction cs generalizing word with
  | nil => rw [mapWordsFrom, replaceFrom, ended]
  | cons c cs ih => rw [mapWordsFrom, replaceFrom, ended, ih, ih]

/-- The text with another one in place of a word is the text with **every other word by
itself**. -/
theorem mapWords_ite {name : String} (nonempty : name ≠ "") (image s : String) :
    mapWords (fun w => if w = name then image else w) s = replaceWord name image s :=
  congrArg String.ofList (mapWordsFrom_ite nonempty image [] s.toList)

/-! ### All words -/

variable {image : String → String} {word : List Char} {sign : Char}

/-- A sign stays and ends the word before it. -/
theorem mapWordsFrom_sign {c : Char} (noLetter : isAlphanumeric c = false) (cs : List Char) :
    mapWordsFrom image word (c :: cs) = wordImage image word ++ c :: mapWordsFrom image [] cs := by
  rw [mapWordsFrom, if_neg (by simp [noLetter])]

/-- Letters belong to the word that has begun. -/
theorem mapWordsFrom_letters {letters : List Char} (all : ∀ c ∈ letters, isAlphanumeric c = true)
    (cs : List Char) :
    mapWordsFrom image word (letters ++ cs) = mapWordsFrom image (letters.reverse ++ word) cs := by
  induction letters generalizing word with
  | nil => rfl
  | cons c letters ih =>
      obtain ⟨letter, all⟩ := List.forall_mem_cons.mp all
      rw [List.cons_append, mapWordsFrom, if_pos letter, ih all, List.reverse_cons,
        List.append_assoc, List.singleton_append]

/-- After a word has begun, the text begins with its image. -/
theorem exists_mapWordsFrom_eq (begun : word ≠ []) (letters : ∀ c ∈ word, isAlphanumeric c = true)
    (cs : List Char) :
    ∃ word' rest, word' ≠ [] ∧ (∀ c ∈ word', isAlphanumeric c = true) ∧
      mapWordsFrom image word cs = (image (String.ofList word'.reverse)).toList ++ rest := by
  have ended {word : List Char} (begun : word ≠ []) :
      wordImage image word = (image (String.ofList word.reverse)).toList :=
    if_neg (by simpa using begun)
  induction cs generalizing word with
  | nil => exact ⟨word, [], begun, letters, by rw [mapWordsFrom, ended begun, List.append_nil]⟩
  | cons c cs ih =>
      rw [mapWordsFrom]
      split
      · next letter =>
          exact ih (List.cons_ne_nil c word) (List.forall_mem_cons.mpr ⟨letter, letters⟩)
      · exact ⟨word, _, begun, letters, by rw [ended begun]⟩

/-- Replacing words puts **no sign in front** that was not there before, if the images do not
begin with it. -/
theorem head?_mapWordsFrom
    (begins : ∀ word ≠ [], (∀ c ∈ word, isAlphanumeric c = true) →
      ∃ c ≠ sign, (image (String.ofList word.reverse)).toList.head? = some c)
    {cs : List Char} (other : cs.head? ≠ some sign) :
    (mapWordsFrom image [] cs).head? ≠ some sign := by
  cases cs with
  | nil => simp [mapWordsFrom, wordImage]
  | cons c cs =>
      rw [mapWordsFrom]
      split
      · next letter =>
          obtain ⟨word, rest, begun, letters, text⟩ := @exists_mapWordsFrom_eq image [c]
            (List.cons_ne_nil c []) (List.forall_mem_singleton.mpr letter) cs
          obtain ⟨d, apart, first⟩ := begins word begun letters
          rw [text, List.head?_append, first]
          simpa using apart
      · exact other

end Junctor.Text
