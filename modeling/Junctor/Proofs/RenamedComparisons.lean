import Junctor.Proofs.Acceptance
import Junctor.Proofs.Ledgers
import Junctor.Proofs.Renaming

/-!
# Names Do Not Matter

Two formulas are compared, and the same formulas with other names for their variables. Other
names are in another order, so that the columns of the truth tables, the rows and the first
mismatch may be other ones, and the two comparisons go through different assignments. But an
assignment to the new names is an assignment to the old ones, because different variables get
different names, and every assignment to the old names comes from one to the new names. So
the formulas mean the same before and after.

If the new names are in the order of the old ones, the columns are in the same order, and
assignments with the same number give the same values. Then the comparisons run in parallel,
step by step.

## Main results

* `BooleanFunction.exists_isOf_rename`: other names make functions of the renamed formulas.
* `Search.decides_difference`: what a search on functions of formulas finds.
* `Search.parallel_rename`: names in the same order make parallel searches.
* `Comparison.name_run_rename`: the kind of verdict does not depend on the names.
* `Comparison.run_rename_of_order`: names in the same order make matching runs.
* `Entry.renaming_keeps_verdict`: both for formulas given as texts.
-/

namespace Junctor

/-! ### Functions of formulas -/

/-- The function **came from a formula** with some tree, so that its variables and its values
are those of the tree. -/
structure BooleanFunction.IsOf (f : BooleanFunction) (tree : Formula) : Prop where
  /-- It was made. -/
  made : f.Made
  /-- It did not come from a number. -/
  unnumbered : ¬ f.IsNumbered
  /-- Its variables are those of the tree. -/
  names : ∀ x, x ∈ f.names ↔ x ∈ tree.names
  /-- It means the truth value of the tree. -/
  means : f.Means tree.eval

namespace BooleanFunction

/-- A function made from a text came from the formula that the text is parsed as. -/
theorem isOf_of_parse {text : String} {tree : Formula} {f : BooleanFunction}
    (parsed : Formula.parse text = .ok tree) (made : ofFormula text = .ok f) : f.IsOf tree := by
  obtain ⟨tree', parsed', origin, -, named⟩ := ofFormula_eq_ok made
  obtain rfl := Except.ok.inj (parsed.symm.trans parsed')
  refine {
    made := .formula made, unnumbered := ?_, names := named, means := .formula origin parsed }
  rintro ⟨given, numbered⟩
  rw [origin] at numbered
  cases numbered

/-- A function that came from a formula lacks no variable. -/
theorem IsOf.not_lacks {f : BooleanFunction} {tree : Formula} (of : f.IsOf tree)
    (union : List String) : ¬ f.Lacks union :=
  fun lacks => of.unnumbered lacks.1

/-- With other names for its variables, a text still makes a function, and it is one of the
renamed formula. -/
theorem exists_isOf_rename {ρ : String → String} {text : String} {tree : Formula}
    (parsed : Formula.parse text = .ok tree) (names : ∀ x ∈ tree.names, IsName (ρ x)) :
    ∃ f, ofFormula (Lexer.rename ρ text) = .ok f ∧ f.IsOf (tree.rename ρ) := by
  have renamed := Formula.parse_rename parsed names
  obtain ⟨f, made, -⟩ := ofFormula_of_parse renamed
  exact ⟨f, made, isOf_of_parse renamed made⟩

end BooleanFunction

/-! ### Searches -/

namespace Search

variable {F G : Formula} {f g : BooleanFunction} {clock : Nat → Float}

/-- At the assignment of a valuation, functions of formulas have the values of the formulas. -/
theorem valuesAt_of_isOf (left : f.IsOf F) (right : g.IsOf G) (v : String → Bool) :
    (ofPair f g clock).valuesAt ((ofPair f g clock).assignment
        (rowNumber ((ofPair f g clock).names.map v))) = .ok (F.eval v, G.eval v) :=
  valuesAt_ofPair left.made right.made left.means right.means
    (not_or.mpr ⟨left.not_lacks _, right.not_lacks _⟩) v

/-- Functions of formulas agree at the assignment of a valuation if the formulas do. -/
theorem agreeAt_of_isOf (left : f.IsOf F) (right : g.IsOf G) (v : String → Bool) :
    (ofPair f g clock).agreeAt ((ofPair f g clock).assignment
        (rowNumber ((ofPair f g clock).names.map v))) = .ok (F.eval v == G.eval v) := by
  rw [agreeAt_eq_map_valuesAt, valuesAt_of_isOf left right]
  rfl

/-- The verdict **decides** whether something is the same, unless reports are blocked, when
there is no decision at all. -/
inductive Decides (blocked : Bool) (same : Prop) : Verdict → Prop where
  /-- Reports are blocked. -/
  | failed {reason : String} (stuck : blocked = true) : Decides blocked same (.failed reason)
  /-- It is the same. -/
  | equivalent (free : blocked = false) (yes : same) : Decides blocked same .equivalent
  /-- It is not the same. -/
  | notEquivalent {text : String} (free : blocked = false) (no : ¬ same) :
      Decides blocked same (.notEquivalent text)

/-- Verdicts that decide the same thing are of one kind. -/
theorem Decides.name_eq {blocked : Bool} {same same' : Prop} {verdict verdict' : Verdict}
    (decides : Decides blocked same verdict) (decides' : Decides blocked same' verdict')
    (iff : same ↔ same') : verdict.name = verdict'.name := by
  cases decides with
  | failed stuck =>
      cases decides' with
      | failed _ => rfl
      | equivalent free _ => exact absurd (stuck.symm.trans free) nofun
      | notEquivalent free _ => exact absurd (stuck.symm.trans free) nofun
  | equivalent free yes =>
      cases decides' with
      | failed stuck => exact absurd (stuck.symm.trans free) nofun
      | equivalent _ _ => rfl
      | notEquivalent _ no => exact absurd (iff.mp yes) no
  | notEquivalent free no =>
      cases decides' with
      | failed stuck => exact absurd (stuck.symm.trans free) nofun
      | equivalent _ yes => exact absurd (iff.mpr yes) no
      | notEquivalent _ _ => rfl

/-- A search on functions of formulas decides **whether the formulas have the same values**,
unless reports are blocked. -/
theorem decides_difference (left : f.IsOf F) (right : g.IsOf G) (session : Session) :
    Decides (session.standing.blocks) (∀ v, F.eval v = G.eval v)
      ((ofPair f g clock).difference (ofPair f g clock).total session).1 := by
  have complete : ¬ (f.Lacks (ofPair f g clock).names ∨ g.Lacks (ofPair f g clock).names) :=
    not_or.mpr ⟨left.not_lacks _, right.not_lacks _⟩
  rw [← snd_ledgered]
  by_cases blocked : session.standing.blocks = true
  · obtain ⟨-, ⟨reason, failed⟩, -⟩ :=
      @Interrupted.ledgered (ofPair f g clock) session (.inl blocked)
    rw [failed]
    exact .failed blocked
  · have free : (ofPair f g clock).Free session :=
      { reports := Bool.eq_false_iff.mpr blocked
        values := fun _ => exists_valuesAt_ofPair left.made right.made complete }
    have closes := free.closes_total
    have entries {i : Nat} {entry : Bool × Bool}
        (entered : ((ofPair f g clock).ledgered (ofPair f g clock).total session).1[i]? =
          some entry) :
        (ofPair f g clock).valuesAt ((ofPair f g clock).assignment i) = .ok entry := by
      have value := valuesAt_of_getElem?_ledgered (Nat.le_refl _) entered
      rwa [Nat.sub_self, Nat.zero_add] at value
    have unblocked : session.standing.blocks = false := free.reports
    generalize (ofPair f g clock).ledgered (ofPair f g clock).total session = outcome
      at closes entries
    cases closes with
    | @agreement ledger last all full _ =>
        refine .equivalent unblocked fun v => ?_
        have below := rowNumber_lt_total (ofPair f g clock) v
        rw [← full, Nat.zero_add] at below
        have value := entries (List.getElem?_eq_getElem below)
        rw [valuesAt_of_isOf left right] at value
        have agree := all _ (List.getElem_mem below)
        rwa [← Except.ok.inj value] at agree
    | @difference before entry last all differ below _ =>
        refine .notEquivalent unblocked fun same => ?_
        rw [Nat.zero_add] at below
        obtain ⟨v, number⟩ := exists_rowNumber_eq (nodup_of_pairwise sorted_ofPair) below
        have value := @entries before.length entry (by simp)
        rw [← number, valuesAt_of_isOf left right] at value
        rw [← Except.ok.inj value] at differ
        exact differ (same v)

end Search

/-! ### Other names -/

/-- The variables of two functions together, sorted. -/
def variablesOf (f g : BooleanFunction) : List String :=
  unionNames (sortedNames f.names) (sortedNames g.names)

/-- The variables of two functions are sorted. -/
theorem sorted_variablesOf (f g : BooleanFunction) : (variablesOf f g).Pairwise (· < ·) :=
  pairwise_unionNames _ (pairwise_sortedNames g.names)

/-- Other names for some names are **names that stay apart**, so that nothing is lost when
they replace the old ones. -/
structure IsRenaming (ρ : String → String) (names : List String) : Prop where
  /-- They are names. -/
  isName : ∀ x ∈ names, IsName (ρ x)
  /-- Different names get different names. -/
  apart : ∀ x ∈ names, ∀ y ∈ names, ρ x = ρ y → x = y

/-- The new names are in the order of the old ones. -/
def KeepsOrder (ρ : String → String) (names : List String) : Prop :=
  ∀ x ∈ names, ∀ y ∈ names, x < y → ρ x < ρ y

/-- The functions of two formulas, **before and after** their variables got other names, the
same ones in both formulas. -/
structure Renamed (ρ : String → String) (F G : Formula) (f g f' g' : BooleanFunction) : Prop where
  /-- The left function before. -/
  left : f.IsOf F
  /-- The right function before. -/
  right : g.IsOf G
  /-- The left function after. -/
  left' : f'.IsOf (F.rename ρ)
  /-- The right function after. -/
  right' : g'.IsOf (G.rename ρ)
  /-- The names are other names. -/
  names : IsRenaming ρ (variablesOf f g)

namespace Renamed

variable {ρ : String → String} {F G : Formula} {f g f' g' : BooleanFunction}

/-- The variables afterwards are the new names of the variables before. -/
theorem mem_variablesOf (renamed : Renamed ρ F G f g f' g') {x : String} :
    x ∈ variablesOf f' g' ↔ x ∈ (variablesOf f g).map ρ := by
  rw [variablesOf, variablesOf, mem_unionNames_sortedNames, List.mem_map, renamed.left'.names,
    renamed.right'.names, Formula.mem_names_rename, Formula.mem_names_rename]
  simp only [mem_unionNames_sortedNames, renamed.left.names, renamed.right.names, or_and_right,
    exists_or]

/-- The new names of different variables differ. -/
theorem nodup_map (renamed : Renamed ρ F G f g f' g') : ((variablesOf f g).map ρ).Nodup :=
  (nodup_of_pairwise (sorted_variablesOf f g)).map_on renamed.names.apart

/-- There are as many variables afterwards. -/
theorem length_variablesOf (renamed : Renamed ρ F G f g f' g') :
    (variablesOf f' g').length = (variablesOf f g).length := by
  have distinct := nodup_of_pairwise (sorted_variablesOf f' g')
  have same := (List.perm_ext_iff_of_nodup distinct renamed.nodup_map).mpr
    fun _ => renamed.mem_variablesOf
  rw [same.length_eq, List.length_map]

/-- If the new names are in the order of the old ones, the variables afterwards are the new
names in turn. -/
theorem variablesOf_eq_map (renamed : Renamed ρ F G f g f' g')
    (ordered : KeepsOrder ρ (variablesOf f g)) : variablesOf f' g' = (variablesOf f g).map ρ := by
  refine unionNames_sortedNames_eq (List.pairwise_map.mpr ?_) fun x => ?_
  · refine (sorted_variablesOf f g).imp_of_mem fun {x y} memLeft memRight before => ?_
    exact ordered x memLeft y memRight before
  · rw [← renamed.mem_variablesOf, variablesOf, mem_unionNames_sortedNames]

/-- Every valuation of the variables comes from one of their new names. -/
theorem exists_valuation (renamed : Renamed ρ F G f g f' g') (v : String → Bool) :
    ∃ w : String → Bool, ∀ x ∈ variablesOf f g, w (ρ x) = v x := by
  have long : ((variablesOf f g).map v).length = ((variablesOf f g).map ρ).length := by
    rw [List.length_map, List.length_map]
  obtain ⟨w, same⟩ := exists_map_eq renamed.nodup_map long false
  rw [List.map_map] at same
  exact ⟨w, List.map_inj_left.mp same⟩

/-- A valuation of the new names gives the formulas the values that they had before. -/
theorem eval_eq (renamed : Renamed ρ F G f g f' g') {v w : String → Bool}
    (same : ∀ x ∈ variablesOf f g, w (ρ x) = v x) :
    (F.rename ρ).eval w = F.eval v ∧ (G.rename ρ).eval w = G.eval v := by
  rw [Formula.eval_rename, Formula.eval_rename]
  constructor
  · refine Formula.eval_congr fun x mem => same x (mem_unionNames_sortedNames.mpr (.inl ?_))
    exact (renamed.left.names x).mpr mem
  · refine Formula.eval_congr fun x mem => same x (mem_unionNames_sortedNames.mpr (.inr ?_))
    exact (renamed.right.names x).mpr mem

/-- The formulas have the same values before and after. -/
theorem same_values_iff (renamed : Renamed ρ F G f g f' g') :
    (∀ w, (F.rename ρ).eval w = (G.rename ρ).eval w) ↔ ∀ v, F.eval v = G.eval v := by
  constructor
  · intro same v
    obtain ⟨w, values⟩ := renamed.exists_valuation v
    obtain ⟨left, right⟩ := renamed.eval_eq values
    rw [← left, ← right, same]
  · intro same w
    rw [Formula.eval_rename, Formula.eval_rename, same]

/-- If the new names are in the order of the old ones, a valuation of the new names has the
row that it had before. -/
theorem map_variablesOf (renamed : Renamed ρ F G f g f' g')
    (ordered : KeepsOrder ρ (variablesOf f g))
    {v w : String → Bool} (same : ∀ x ∈ variablesOf f g, w (ρ x) = v x) :
    (variablesOf f g).map v = (variablesOf f' g').map w := by
  rw [renamed.variablesOf_eq_map ordered, List.map_map]
  exact (List.map_congr_left same).symm

end Renamed

variable {ρ : String → String} {F G : Formula} {f g f' g' : BooleanFunction}

/-- If the new names are in the order of the old ones, searches before and after **run in
parallel**. -/
theorem Search.parallel_rename (renamed : Renamed ρ F G f g f' g')
    (ordered : KeepsOrder ρ (variablesOf f g)) (clock clock' : Nat → Float) :
    (ofPair f g clock).Parallel (ofPair f' g' clock') where
  total := congrArg (2 ^ ·) renamed.length_variablesOf.symm
  agreeAt index below := by
    obtain ⟨v, rfl⟩ := exists_rowNumber_eq (nodup_of_pairwise sorted_ofPair) below
    obtain ⟨w, values⟩ := renamed.exists_valuation v
    obtain ⟨left, right⟩ := renamed.eval_eq values
    have row : (ofPair f g clock).names.map v = (ofPair f' g' clock').names.map w :=
      renamed.map_variablesOf ordered values
    rw [agreeAt_of_isOf renamed.left renamed.right, row,
      agreeAt_of_isOf renamed.left' renamed.right', left, right]

/-! ### Comparisons -/

/-- The verdict is the same **with other names** in the counterexample. -/
inductive Verdict.IsRenamed (ρ : String → String) (names : List String) :
    Verdict → Verdict → Prop where
  /-- There is no counterexample. -/
  | equivalent : IsRenamed ρ names .equivalent .equivalent
  /-- The values are those of other names. -/
  | notEquivalent (v : String → Bool) :
      IsRenamed ρ names (.notEquivalent (Assignment.ofTruth (names.map fun x => (x, v x))).describe)
        (.notEquivalent (Assignment.ofTruth (names.map fun x => (ρ x, v x))).describe)
  /-- There is no counterexample. -/
  | failed (reason : String) : IsRenamed ρ names (.failed reason) (.failed reason)

/-- If the new names are in the order of the old ones, verdicts that match are the same with
other names in the counterexample. -/
theorem Search.Matches.isRenamed (renamed : Renamed ρ F G f g f' g')
    (ordered : KeepsOrder ρ (variablesOf f g)) {clock clock' : Nat → Float}
    {verdict verdict' : Verdict}
    (found : Matches (ofPair f g clock) (ofPair f' g' clock') verdict verdict') :
    verdict.IsRenamed ρ (variablesOf f g) verdict' := by
  cases found with
  | equivalent => exact .equivalent
  | failed reason => exact .failed reason
  | notEquivalent below =>
      obtain ⟨v, rfl⟩ := exists_rowNumber_eq (nodup_of_pairwise sorted_ofPair) below
      obtain ⟨w, values⟩ := renamed.exists_valuation v
      have row : (ofPair f g clock).names.map v = (ofPair f' g' clock').names.map w :=
        renamed.map_variablesOf ordered values
      have image : (ofPair f' g' clock').names.map (fun y => (y, w y)) =
          (variablesOf f g).map fun x => (ρ x, v x) := by
        refine (congrArg (List.map _) (renamed.variablesOf_eq_map ordered)).trans ?_
        rw [List.map_map]
        exact List.map_congr_left fun x mem => congrArg (Prod.mk (ρ x)) (values x mem)
      have after : (ofPair f' g' clock').assignment (rowNumber ((ofPair f g clock).names.map v)) =
          .ofTruth ((variablesOf f g).map fun x => (ρ x, v x)) := by
        rw [row, assignment_rowNumber sorted_ofPair, Assignment.ofValuation, image]
      rw [after, assignment_rowNumber sorted_ofPair]
      exact .notEquivalent v

namespace Comparison

/-- Runs on two pairs of functions with as many variables are related as their searches are, as
long as runs are related that end before their first assignment. -/
theorem run_related {R : Except Fault Verdict × Nat → Except Fault Verdict × Nat → Prop}
    (long : (variablesOf f' g').length = (variablesOf f g).length)
    (broken : ∀ fault, R (.error fault, 0) (.error fault, 0))
    (failed : ∀ reason, R (.ok (.failed reason), 0) (.ok (.failed reason), 0)) (desk : Desk)
    (clock : Nat → Float) (fields : List (String × Value))
    (searched : ∀ session session' : Session, session.standing = session'.standing →
      let search := Search.ofPair f g clock
      let other := Search.ofPair f' g' clock
      let found := search.difference search.total session
      let found' := other.difference other.total session'
      R (.ok found.1, found.2.checked) (.ok found'.1, found'.2.checked)) :
    let before := run desk clock (some f) (some g) fields
    let after := run desk clock (some f') (some g') fields
    R (before.outcome, before.comparison.checked) (after.outcome, after.comparison.checked) := by
  intro before after
  by_cases usable : ∃ options level, Options.ofFields fields = .ok options ∧
    options.level = .ok level
  · obtain ⟨options, level, given, usable⟩ := usable
    cases listing : options.listing with
    | error fault =>
        obtain ⟨outcome, -, -, statistics⟩ :=
          run_of_unlisted given usable listing desk clock (some f) (some g)
        obtain ⟨outcome', -, -, statistics'⟩ :=
          run_of_unlisted given usable listing desk clock (some f') (some g')
        simp only [before, after, outcome, outcome', statistics, statistics']
        exact broken fault
    | ok text =>
        obtain ⟨outcome, -, -, statistics⟩ :=
          run_of_listed given usable listing desk clock (some f) (some g)
        obtain ⟨outcome', -, -, statistics'⟩ :=
          run_of_listed given usable listing desk clock (some f') (some g')
        simp only [before, after, outcome, outcome', statistics, statistics', search_some]
        have long : (Search.ofPair f' g' clock).names.length =
          (Search.ofPair f g clock).names.length :=
          long
        generalize begins : (Session.begun desk level options.logRate).note Level.info text = start
        have fresh : start.checked = 0 := by
          rw [← begins]
          exact congrArg Standing.checked (Session.standing_note ..)
        rw [long]
        cases options.exceededBy (Search.ofPair f g clock).names.length with
        | error fault =>
            obtain ⟨⟨reason, stopped⟩, count⟩ := start.exists_stop_failed fault
            have count : (start.stop fault).2.standing.checked = 0 := count.trans fresh
            rw [stopped, count]
            exact failed reason
        | ok exceeded =>
            cases exceeded with
            | true =>
                have count : start.standing.checked = 0 := fresh
                rw [count]
                exact failed _
            | false =>
                refine searched _ _ ?_
                rw [Session.standing_note, Session.standing_note]
  · obtain ⟨options, cause, refused⟩ := exists_refusal_of_unusable
      fun options level given usable' => usable ⟨options, level, given, usable'⟩
    simp only [before, after, refused]
    exact failed _

/-- **The kind of verdict does not depend on the names**, even if they change the order in
which assignments come up. -/
theorem name_run_rename (renamed : Renamed ρ F G f g f' g') (desk : Desk) (clock : Nat → Float)
    (fields : List (String × Value)) :
    (run desk clock (some f') (some g') fields).outcome.map Verdict.name =
      (run desk clock (some f) (some g) fields).outcome.map Verdict.name :=
  @run_related f g f' g' (fun before after => after.1.map Verdict.name = before.1.map Verdict.name)
    renamed.length_variablesOf (fun _ => rfl) (fun _ => rfl) desk clock fields
    fun session session' same => by
      have before := @Search.decides_difference F G f g clock renamed.left renamed.right session
      have after :=
        @Search.decides_difference _ _ f' g' clock renamed.left' renamed.right' session'
      rw [← same] at after
      exact congrArg Except.ok (after.name_eq before renamed.same_values_iff)

/-- If the new names are in the order of the old ones, runs before and after find **the same
with other names**, after as many assignments. -/
theorem run_rename_of_order (renamed : Renamed ρ F G f g f' g')
    (ordered : KeepsOrder ρ (variablesOf f g)) (desk : Desk) (clock : Nat → Float)
    (fields : List (String × Value)) :
    let before := run desk clock (some f) (some g) fields
    let after := run desk clock (some f') (some g') fields
    (∀ verdict, before.outcome = .ok verdict →
        ∃ verdict', after.outcome = .ok verdict' ∧ verdict.IsRenamed ρ (variablesOf f g) verdict') ∧
      after.comparison.checked = before.comparison.checked :=
  @run_related f g f' g'
    (fun before after =>
      (∀ verdict, before.1 = .ok verdict →
        ∃ verdict', after.1 = .ok verdict' ∧ verdict.IsRenamed ρ (variablesOf f g) verdict') ∧
      after.2 = before.2)
    renamed.length_variablesOf (fun _ => ⟨nofun, rfl⟩)
    (fun reason => ⟨fun _ found => ⟨_, rfl, Except.ok.inj found ▸ .failed reason⟩, rfl⟩)
    desk clock fields fun session session' same => by
      have parallel := Search.parallel_rename renamed ordered clock clock
      obtain ⟨found, standing⟩ := parallel.difference (Nat.le_refl _) same
      dsimp only
      rw [← parallel.total]
      refine ⟨fun verdict answered => ⟨_, rfl, ?_⟩, (congrArg Standing.checked standing).symm⟩
      obtain rfl := Except.ok.inj answered
      exact found.isRenamed renamed ordered

end Comparison

namespace Entry

variable {a b : String} {fields : List (String × Value)}

/-- The verdict on two formulas **does not depend on the names** of their variables. If these
get other names, which stay apart, the formulas are accepted again, and with the same options
a comparison comes to the same kind of verdict. If the new names are in the order of the old
ones, a counterexample is the one before with other names, and as many assignments come
up. -/
theorem renaming_keeps_verdict {ρ : String → String}
    (madeLeft : BooleanFunction.ofFormula a = .ok f)
    (madeRight : BooleanFunction.ofFormula b = .ok g) (names : IsRenaming ρ (variablesOf f g))
    (fields : List (String × Value)) :
    ∃ f' g', BooleanFunction.ofFormula (Lexer.rename ρ a) = .ok f' ∧
      BooleanFunction.ofFormula (Lexer.rename ρ b) = .ok g' ∧
      let before := compareFormulas (.text a) (.text b) fields
      let after := compareFormulas (.text (Lexer.rename ρ a)) (.text (Lexer.rename ρ b)) fields
      after.map Verdict.name = before.map Verdict.name ∧
      (KeepsOrder ρ (variablesOf f g) →
        (∀ verdict, before = .ok verdict →
          ∃ verdict', after = .ok verdict' ∧ verdict.IsRenamed ρ (variablesOf f g) verdict') ∧
        ∀ (desk : Desk) (clock : Nat → Float),
          (Comparison.run desk clock (some f') (some g') fields).comparison.checked =
            (Comparison.run desk clock (some f) (some g) fields).comparison.checked) := by
  obtain ⟨F, parsedLeft⟩ := BooleanFunction.exists_parse_of_ofFormula madeLeft
  obtain ⟨G, parsedRight⟩ := BooleanFunction.exists_parse_of_ofFormula madeRight
  have left := BooleanFunction.isOf_of_parse parsedLeft madeLeft
  have right := BooleanFunction.isOf_of_parse parsedRight madeRight
  obtain ⟨f', madeLeft', left'⟩ := BooleanFunction.exists_isOf_rename parsedLeft fun x mem =>
    names.isName x (mem_unionNames_sortedNames.mpr (.inl ((left.names x).mpr mem)))
  obtain ⟨g', madeRight', right'⟩ := BooleanFunction.exists_isOf_rename parsedRight fun x mem =>
    names.isName x (mem_unionNames_sortedNames.mpr (.inr ((right.names x).mpr mem)))
  have renamed : Renamed ρ F G f g f' g' := ⟨left, right, left', right', names⟩
  refine ⟨f', g', madeLeft', madeRight', ?_, fun ordered => ⟨fun verdict answered => ?_, ?_⟩⟩
  · rw [compareFormulas_of_made madeLeft madeRight, compareFormulas_of_made madeLeft' madeRight']
    cases checkAll fields with
    | error fault => rfl
    | ok _ => exact Comparison.name_run_rename renamed .initial presentClock fields
  · rw [compareFormulas_of_made madeLeft madeRight] at answered
    rw [compareFormulas_of_made madeLeft' madeRight']
    cases free : checkAll fields with
    | error fault => rw [free] at answered; cases answered
    | ok _ =>
        rw [free] at answered
        exact (Comparison.run_rename_of_order renamed ordered .initial presentClock fields).1
          verdict answered
  · exact fun desk clock => (Comparison.run_rename_of_order renamed ordered desk clock fields).2

/-- With `left` for `x` and `right` for `y`, a conjunction and a disjunction differ at the
second assignment as they did before. -/
theorem renaming_keeps_verdict_left_right :
    let ρ (x : String) : String := if x = "x" then "left" else "right"
    ∃ f' g' verdict, BooleanFunction.ofFormula "left & right" = .ok f' ∧
      BooleanFunction.ofFormula "left or right" = .ok g' ∧
      compareFormulas (.text "left & right") (.text "left or right") [] = .ok verdict ∧
      Verdict.IsRenamed ρ ["x", "y"] (.notEquivalent "x = false, y = true") verdict ∧
      (Comparison.run .initial presentClock (some f') (some g') []).comparison.checked = 2 := by
  intro ρ
  let f : BooleanFunction := ⟨["x", "y"], [false, false, false, true],
    .formula "x & y" [.var "x", .var "y", .operator (.binary .and)]⟩
  let g : BooleanFunction := ⟨["x", "y"], [false, true, true, true],
    .formula "x or y" [.var "x", .var "y", .operator (.binary .or)]⟩
  have madeLeft : BooleanFunction.ofFormula "x & y" = .ok f := rfl
  have madeRight : BooleanFunction.ofFormula "x or y" = .ok g := rfl
  have both : variablesOf f g = ["x", "y"] := by decide
  have names : IsRenaming ρ (variablesOf f g) := by
    rw [both]
    refine ⟨fun x _ => ?_, by decide⟩
    show IsName (if x = "x" then "left" else "right")
    split
    · exact ⟨by decide, by decide, by decide⟩
    · exact ⟨by decide, by decide, by decide⟩
  have ordered : KeepsOrder ρ (variablesOf f g) := by
    rw [both]
    unfold KeepsOrder
    decide
  have answered : compareFormulas (.text "x & y") (.text "x or y") [] =
      .ok (.notEquivalent "x = false, y = true") :=
    eq_ok_of_toOption (by decide +kernel)
  have textLeft : Lexer.rename ρ "x & y" = "left & right" := by decide +kernel
  have textRight : Lexer.rename ρ "x or y" = "left or right" := by decide +kernel
  obtain ⟨f', g', madeLeft', madeRight', -, inOrder⟩ :=
    renaming_keeps_verdict madeLeft madeRight names []
  obtain ⟨found, counts⟩ := inOrder ordered
  obtain ⟨verdict, answered', renamed⟩ := found _ answered
  rw [textLeft, textRight] at answered'
  rw [both] at renamed
  refine ⟨f', g', verdict, textLeft ▸ madeLeft', textRight ▸ madeRight', answered', renamed, ?_⟩
  rw [counts]
  decide

end Entry

end Junctor
