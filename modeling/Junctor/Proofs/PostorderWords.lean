import Mathlib.Logic.ExistsUnique
import Junctor.Proofs.StackMachines

/-!
# The Words of Formulas

The stack machines are handed words, which they read as tokens. The words of a formula are
the tokens of its postorder as they are written. Nothing keeps the name of a variable from
being a parenthesis or the symbol of an operator, so that the words of a formula need not be
read as its tokens again, and two formulas may have the same words. A formula can be read
back if the names of its variables are read as variables.

A formula is built from words exactly if it can be read back and the words are its own. Hence
the formulas that can be read back and the word lists from which a formula is built
correspond to each other one to one. The machine that counts, which does not build anything,
accepts these word lists and no other ones.

## Main results

* `Formula.words`: the words of a formula; `Formula.Readable`: can it be read back?
* `Formula.map_ofText_eq_postorder_iff`: which words are read as the tokens of a formula.
* `Formula.words_biject`: the formulas and the word lists correspond.
-/

namespace Junctor

/-! ### Reading what was written -/

namespace Token

/-- A name that is read as a variable is read as its own. -/
theorem ofText_of_isVariable {x : String} (named : (ofText x).isVariable = true) :
    ofText x = .var x := by
  cases read : ofText x with
  | var name => exact congrArg var ((congrArg text read).symm.trans (text_ofText x))
  | _ =>
      rw [read] at named
      cases named

end Token

namespace Formula

/-- The **words** of a formula in reverse Polish order, by which it is identified. -/
def words (f : Formula) : List String := f.postorder.map Token.text

/-- Can the formula be **read back**: are the names of its variables read as variables? -/
def Readable (f : Formula) : Prop := ∀ x ∈ f.names, (Token.ofText x).isVariable = true

instance (f : Formula) : Decidable f.Readable :=
  inferInstanceAs (Decidable (∀ x ∈ f.names, (Token.ofText x).isVariable = true))

/-- The words of a formula that can be read back are read as its tokens. -/
theorem Readable.map_ofText {f : Formula} (readable : f.Readable) :
    f.words.map Token.ofText = f.postorder := by
  rw [words, List.map_map]
  induction f with
  | var name =>
      have read := Token.ofText_of_isVariable (readable name List.mem_cons_self)
      exact congrArg (· :: []) read
  | const value => cases value <;> decide
  | not a ih =>
      rw [postorder, List.map_append, ih readable]
      exact congrArg (_ ++ [·]) (Token.ofText_symbol .negation)
  | binary c a b ihA ihB =>
      have left : a.Readable := fun x mem => readable x (by simp [names, mem])
      have right : b.Readable := fun x mem => readable x (by simp [names, mem])
      rw [postorder, List.map_append, List.map_append, ihA left, ihB right]
      exact congrArg (_ ++ [·]) (Token.ofText_symbol (.binary c))

/-- Words are read as the tokens of a formula **exactly if** it can be read back and they are
its words. -/
theorem map_ofText_eq_postorder_iff {ws : List String} {f : Formula} :
    ws.map Token.ofText = f.postorder ↔ f.Readable ∧ f.words = ws := by
  constructor
  · intro read
    refine ⟨fun x mem => ?_, ?_⟩
    · have listed : .var x ∈ ws.map Token.ofText := read ▸ mem_names_iff.mp mem
      obtain ⟨w, -, same⟩ := List.mem_map.mp listed
      have own : x = w := (congrArg Token.text same).symm.trans (Token.text_ofText w)
      rw [own, same]
      rfl
    · rw [words, ← read, List.map_map]
      exact (List.map_congr_left fun w _ => Token.text_ofText w).trans (List.map_id ws)
  · rintro ⟨readable, rfl⟩
    exact readable.map_ofText

/-- The formulas that can be read back and the word lists from which a formula is built
**correspond to each other one to one**. A formula that can be read back is built from its
words, and one that is built from words has these words. The machine that counts accepts a
word list exactly if it is that of a formula that can be read back, and then of one only. -/
theorem words_biject :
    (∀ f : Formula, f.Readable → ofReversePolish (f.words.map Token.ofText) = .ok f) ∧
    (∀ (ws : List String) (f : Formula), ofReversePolish (ws.map Token.ofText) = .ok f →
      f.Readable ∧ f.words = ws) ∧
    ∀ ws : List String,
      (checkDepth (ws.map Token.ofText) = .ok () ↔ ∃ f : Formula, f.Readable ∧ f.words = ws) ∧
      (checkDepth (ws.map Token.ofText) = .ok () → ∃! f : Formula, f.Readable ∧ f.words = ws) := by
  have built {ws : List String} {f : Formula} :
      ofReversePolish (ws.map Token.ofText) = .ok f ↔ f.Readable ∧ f.words = ws :=
    ofReversePolish_eq_ok_iff.trans map_ofText_eq_postorder_iff
  have accepted {ws : List String} :
      checkDepth (ws.map Token.ofText) = .ok () ↔ ∃ f : Formula, f.Readable ∧ f.words = ws :=
    checkDepth_eq_ok_iff.trans (exists_congr fun f => map_ofText_eq_postorder_iff)
  refine ⟨fun f readable => built.mpr ⟨readable, rfl⟩, fun ws f => built.mp,
    fun ws => ⟨accepted, fun passed => ?_⟩⟩
  obtain ⟨f, own⟩ := accepted.mp passed
  refine ⟨f, own, fun g other => ?_⟩
  exact Except.ok.inj ((built.mpr other).symm.trans (built.mpr own))

/-- A keyword that is handed in as a word is the name of a variable: `["and", "b", "→", "¬"]`
are the words of the negated implication from `and` to `b`, and of no other formula. -/
theorem words_biject_keyword :
    ofReversePolish (["and", "b", "→", "¬"].map Token.ofText) =
      .ok (.not (.binary .implies (.var "and") (.var "b"))) ∧
    checkDepth (["and", "b", "→", "¬"].map Token.ofText) = .ok () ∧
    ∃! f : Formula, f.Readable ∧ f.words = ["and", "b", "→", "¬"] := by
  obtain ⟨read, -, accepted⟩ := words_biject
  have readable : (Formula.not (.binary .implies (.var "and") (.var "b"))).Readable := by decide
  have passed := (accepted ["and", "b", "→", "¬"]).1.mpr ⟨_, readable, rfl⟩
  exact ⟨read _ readable, passed, (accepted _).2 passed⟩

end Formula

end Junctor
