import Junctor.Proofs.Consistency

/-!
# The Count of a Comparison and What Was Evaluated

A comparison counts the assignments that come up. It counts one before it reports on it and
before it evaluates the functions there, so that the count alone does not tell at how many
assignments both functions had a value. A search that keeps a *ledger* does: it enters the
values of both functions when it has them, and is otherwise the search itself.

The functions of a comparison have values at all assignments, or one of them lacks a variable
and then there is no assignment at which both have one. Likewise all reports of a search are
blocked or none. A search is therefore interrupted at its first assignment or not at all. If
it is, then one assignment is counted and the ledger is empty; in all other cases there are
as many entries as are counted.

## Main results

* `Search.snd_ledgered`: forgetting the ledger gives exactly the search.
* `Search.valuesAt_of_getElem?_ledgered`: the entries are the values at the assignments in
  turn.
* `Search.Free.closes`: how the ledger of a search closes that is not interrupted.
* `Search.Interrupted.ledgered`: a search that is interrupted.
* `Comparison.accounts_run`: how a run accounts for its verdict.
* `Bench.count_is_length_of_ledger`: when the count of a call is the number of entries.
* `Bench.count_beyond_ledger`: an assignment that is counted and not evaluated.
-/

namespace Junctor

/-! ### Reports that are blocked -/

namespace Standing

/-- Is every report of progress blocked, because it gets as far as the limiter and the rate
is no number? -/
def blocks (standing : Standing) : Bool :=
  standing.progressLogger.enabledFor Level.info && standing.footing.active &&
    standing.rate.toScalar?.isNone

/-- A report that says anything gets stuck exactly if reports are blocked. -/
theorem sticks_eq_blocks (standing : Standing) {text : String}
    (said : Text.isBlankText text = false) : standing.sticks text = standing.blocks := by
  rw [sticks, blocks, Logger.admits, said, Bool.not_false, Bool.and_true]

end Standing

namespace Search

variable {search : Search}

/-- The text about the progress of a search says something. -/
theorem isBlankText_progress (search : Search) (checked : Nat) :
    Text.isBlankText (search.progress checked) = false := by
  have letter : Text.isBlank 'o' = false := by decide
  refine List.all_eq_false.mpr ⟨'o', ?_, by rw [letter]; exact Bool.false_ne_true⟩
  simp only [progress, String.toList_append, List.mem_append]
  exact .inl (.inl (.inr (by decide)))

/-- A report on one more assignment gets stuck exactly if reports are blocked. -/
theorem sticks_progress (search : Search) (session : Session) :
    session.counting.standing.sticks (search.progress session.counting.checked) =
      session.standing.blocks :=
  Standing.sticks_eq_blocks _ (search.isBlankText_progress _)

/-! ### Searches with a ledger -/

/-- The values of both functions at an assignment, if both have one. The left function is
evaluated first. -/
def valuesAt (search : Search) (assignment : Assignment) : Except Fault (Bool × Bool) := do
  let left ← search.left.evaluate assignment
  let right ← search.right.evaluate assignment
  return (left, right)

/-- Functions agree if their values are the same. -/
theorem agreeAt_eq_map_valuesAt (search : Search) (assignment : Assignment) :
    search.agreeAt assignment =
      (search.valuesAt assignment).map fun values => values.1 == values.2 := by
  unfold agreeAt valuesAt
  cases search.left.evaluate assignment with
  | error fault => rfl
  | ok left => cases search.right.evaluate assignment <;> rfl

/-- The search with a **ledger**: when both functions have a value at an assignment, these are
entered. -/
def ledgered (search : Search) : Nat → Session → List (Bool × Bool) × (Verdict × Session)
  | 0, session => ([], .equivalent, session)
  | remaining + 1, session =>
    match session.counting.report (search.clock session.counting.checked)
        (search.progress session.counting.checked) with
    | .error fault => ([], session.counting.stop fault)
    | .ok next =>
      let assignment := search.assignment (search.total - (remaining + 1))
      match search.valuesAt assignment with
      | .error fault => ([], next.stop fault)
      | .ok values =>
        if values.1 = values.2 then
          (values :: (search.ledgered remaining next).1, (search.ledgered remaining next).2)
        else ([values], .notEquivalent assignment.describe, next)

/-- **Forgetting the ledger gives exactly the search**, verdict and session, so that what is
known of the ledger is known of the search. -/
theorem snd_ledgered (search : Search) (remaining : Nat) (session : Session) :
    (search.ledgered remaining session).2 = search.difference remaining session := by
  induction remaining generalizing session with
  | zero => rfl
  | succ remaining ih =>
      rw [difference_succ, ledgered]
      cases session.counting.report (search.clock session.counting.checked)
          (search.progress session.counting.checked) with
      | error fault => rfl
      | ok next =>
          simp only [agreeAt_eq_map_valuesAt]
          cases search.valuesAt (search.assignment (search.total - (remaining + 1))) with
          | error fault => rfl
          | ok values =>
              obtain ⟨left, right⟩ := values
              by_cases same : left = right
              · simp only [Except.map, same, beq_self_eq_true, if_true, ih]
              · simp only [Except.map, beq_eq_false_iff_ne.mpr same, same, if_false]

/-- The entries of a ledger are **the values at the assignments in turn**, whatever ends the
search. -/
theorem valuesAt_of_getElem?_ledgered {remaining : Nat} (within : remaining ≤ search.total)
    {session : Session} {i : Nat} {entry : Bool × Bool}
    (entered : (search.ledgered remaining session).1[i]? = some entry) :
    search.valuesAt (search.assignment (search.total - remaining + i)) = .ok entry := by
  induction remaining generalizing session i with
  | zero => cases entered
  | succ remaining ih =>
      rw [ledgered] at entered
      split at entered
      · cases entered
      · next next _ =>
          cases here : search.valuesAt (search.assignment (search.total - (remaining + 1))) with
          | error fault => simp only [here] at entered; cases entered
          | ok values =>
              simp only [here] at entered
              cases i with
              | zero =>
                  have first : values = entry := by
                    split at entered <;> exact Option.some.inj entered
                  rw [Nat.add_zero, here, first]
              | succ i =>
                  split at entered
                  · have later := ih (Nat.le_of_succ_le within) entered
                    have up : search.total - (remaining + 1) + (i + 1) =
                        search.total - remaining + i := by omega
                    rw [up, later]
                  · cases entered

/-- Do the values in all entries agree? -/
def Agree (ledger : List (Bool × Bool)) : Prop := ∀ entry ∈ ledger, entry.1 = entry.2

/-- How the ledger of a search **closes** that starts at a number, with `checked` assignments
before it, if it is not interrupted: with the values at the last assignment, which agree as
all others do, or with the first values that do not agree. -/
inductive Closes (search : Search) (start checked : Nat) :
    List (Bool × Bool) × (Verdict × Session) → Prop where
  /-- All values agree. -/
  | agreement {ledger : List (Bool × Bool)} {last : Session} (all : Agree ledger)
      (full : start + ledger.length = search.total)
      (count : last.checked = checked + ledger.length) :
      Closes search start checked (ledger, .equivalent, last)
  /-- The values in the last entry do not agree. -/
  | difference {before : List (Bool × Bool)} {entry : Bool × Bool} {last : Session}
      (all : Agree before) (differ : entry.1 ≠ entry.2)
      (below : start + before.length < search.total)
      (count : last.checked = checked + before.length + 1) :
      Closes search start checked
        (before ++ [entry],
          .notEquivalent (search.assignment (start + before.length)).describe, last)

/-- Values that agree are entered first when the ledger closes. -/
theorem Closes.cons {start checked : Nat} {ledger : List (Bool × Bool)}
    {outcome : Verdict × Session} {values : Bool × Bool} (same : values.1 = values.2)
    (closes : Closes search (start + 1) (checked + 1) (ledger, outcome)) :
    Closes search start checked (values :: ledger, outcome) := by
  cases closes with
  | agreement all full count =>
      refine .agreement (List.forall_mem_cons.mpr ⟨same, all⟩) ?_ ?_
      · rw [List.length_cons]; omega
      · rw [count, List.length_cons]; omega
  | @difference before entry last all differ below count =>
      have up : start + 1 + before.length = start + (values :: before).length := by
        rw [List.length_cons]; omega
      rw [up] at below ⊢
      rw [← List.cons_append]
      refine .difference (List.forall_mem_cons.mpr ⟨same, all⟩) differ below ?_
      rw [count, List.length_cons]; omega

/-- A search is **free** to go on: reports are not blocked and both functions have values at
all assignments. -/
structure Free (search : Search) (session : Session) : Prop where
  /-- Reports are not blocked. -/
  reports : session.standing.blocks = false
  /-- Both functions have values. -/
  values : ∀ index < search.total, ∃ entry, search.valuesAt (search.assignment index) = .ok entry

/-- A search that is free reports and stays free. -/
theorem Free.exists_report {session : Session} (free : search.Free session) :
    ∃ next, session.counting.report (search.clock session.counting.checked)
        (search.progress session.counting.checked) = .ok next ∧
      search.Free next ∧ next.checked = session.checked + 1 := by
  have unstuck : ¬ session.counting.standing.sticks
      (search.progress session.counting.checked) = true := by
    rw [sticks_progress, free.reports]
    exact Bool.false_ne_true
  obtain ⟨next, reported, kept⟩ := Session.exists_report_of_not_sticks unstuck
    (search.clock session.counting.checked)
  have reports : next.standing.blocks = false := by
    rw [kept]
    exact free.reports
  exact ⟨next, reported, ⟨reports, free.values⟩, congrArg Standing.checked kept⟩

/-- The ledger of a search that is free closes with one entry for each assignment that was
counted. -/
theorem Free.closes {session : Session} (free : search.Free session) {remaining : Nat}
    (within : remaining ≤ search.total) :
    Closes search (search.total - remaining) session.checked
      (search.ledgered remaining session) := by
  induction remaining generalizing session with
  | zero => exact .agreement nofun (by rw [List.length_nil]; omega) rfl
  | succ remaining ih =>
      obtain ⟨next, reported, free, count⟩ := free.exists_report
      obtain ⟨values, here⟩ := free.values (search.total - (remaining + 1)) (by omega)
      simp only [ledgered, reported, here]
      split
      · next same =>
          have closes := ih free (Nat.le_of_succ_le within)
          have up : search.total - remaining = search.total - (remaining + 1) + 1 := by omega
          rw [up, count] at closes
          exact closes.cons same
      · next differ =>
          refine @Closes.difference search _ _ [] values next nofun differ ?_ ?_
          · rw [List.length_nil]; omega
          · rw [count, List.length_nil]

/-- The ledger of a search through all assignments closes if the search is free. -/
theorem Free.closes_total {session : Session} (free : search.Free session) :
    Closes search 0 session.checked (search.ledgered search.total session) := by
  have closes := free.closes (Nat.le_refl search.total)
  rwa [Nat.sub_self] at closes

/-- A search is interrupted: reports are blocked, or there is no value at the first
assignment. -/
def Interrupted (search : Search) (session : Session) : Prop :=
  session.standing.blocks = true ∨
    ∃ fault, search.valuesAt (search.assignment 0) = .error fault

/-- A search that is interrupted fails at once, with nothing entered and one assignment
counted. -/
theorem Interrupted.ledgered {session : Session} (interrupted : search.Interrupted session) :
    (search.ledgered search.total session).1 = [] ∧
      (∃ reason, (search.ledgered search.total session).2.1 = .failed reason) ∧
      (search.ledgered search.total session).2.2.checked = session.checked + 1 := by
  obtain ⟨remaining, total⟩ : ∃ remaining, search.total = remaining + 1 :=
    Nat.exists_eq_add_one.mpr (Nat.two_pow_pos _)
  by_cases stuck : session.counting.standing.sticks
      (search.progress session.counting.checked) = true
  · rw [total, Search.ledgered, Session.report_of_sticks stuck]
    exact ⟨rfl, Session.exists_stop_failed _ _⟩
  · obtain ⟨fault, failed⟩ := interrupted.resolve_left (search.sticks_progress session ▸ stuck)
    obtain ⟨next, reported, kept⟩ := Session.exists_report_of_not_sticks stuck
      (search.clock session.counting.checked)
    have count : next.checked = session.checked + 1 := congrArg Standing.checked kept
    have first : search.total - (remaining + 1) = 0 := by omega
    have stops : search.ledgered (remaining + 1) session = ([], next.stop fault) := by
      simp only [Search.ledgered, reported, first, failed]
    rw [total, stops, ← count]
    exact ⟨rfl, next.exists_stop_failed fault⟩

/-! ### Functions that were made -/

section OfPair

variable {f g : BooleanFunction} {clock : Nat → Float}

/-- At the assignment of a valuation, functions that were made have the values that they
mean, if neither of them lacks a variable. -/
theorem valuesAt_ofPair {meaningLeft meaningRight : (String → Bool) → Bool} (left : f.Made)
    (right : g.Made) (meansLeft : f.Means meaningLeft) (meansRight : g.Means meaningRight)
    (complete : ¬ (f.Lacks (ofPair f g clock).names ∨ g.Lacks (ofPair f g clock).names))
    (v : String → Bool) :
    (ofPair f g clock).valuesAt ((ofPair f g clock).assignment
        (rowNumber ((ofPair f g clock).names.map v))) = .ok (meaningLeft v, meaningRight v) := by
  obtain ⟨completeLeft, completeRight⟩ := not_or.mp complete
  have valueLeft := left.evaluate_eq meansLeft
    (fun x mem => mem_unionNames_sortedNames.mpr (.inl mem)) completeLeft v
  have valueRight := right.evaluate_eq meansRight
    (fun x mem => mem_unionNames_sortedNames.mpr (.inr mem)) completeRight v
  rw [assignment_rowNumber sorted_ofPair, valuesAt]
  simp only [ofPair] at valueLeft valueRight ⊢
  rw [valueLeft, valueRight]
  rfl

/-- Functions that were made have values at all assignments, if neither of them lacks a
variable. -/
theorem exists_valuesAt_ofPair (left : f.Made) (right : g.Made)
    (complete : ¬ (f.Lacks (ofPair f g clock).names ∨ g.Lacks (ofPair f g clock).names))
    {index : Nat} (below : index < (ofPair f g clock).total) :
    ∃ entry, (ofPair f g clock).valuesAt ((ofPair f g clock).assignment index) = .ok entry := by
  obtain ⟨meaningLeft, meansLeft⟩ := left.exists_means
  obtain ⟨meaningRight, meansRight⟩ := right.exists_means
  obtain ⟨v, rfl⟩ := exists_rowNumber_eq (nodup_of_pairwise sorted_ofPair) below
  exact ⟨_, valuesAt_ofPair left right meansLeft meansRight complete v⟩

/-- If one of the functions lacks a variable, there is no assignment at which both have a
value. -/
theorem exists_valuesAt_ofPair_of_lacks (left : f.Made) (right : g.Made)
    (lacks : f.Lacks (ofPair f g clock).names ∨ g.Lacks (ofPair f g clock).names)
    {index : Nat} (below : index < (ofPair f g clock).total) :
    ∃ fault, (ofPair f g clock).valuesAt ((ofPair f g clock).assignment index) =
      .error fault := by
  obtain ⟨v, rfl⟩ := exists_rowNumber_eq (nodup_of_pairwise sorted_ofPair) below
  rw [assignment_rowNumber sorted_ofPair, valuesAt]
  cases valueLeft : (ofPair f g clock).left.evaluate
      (Assignment.ofValuation (ofPair f g clock).names v) with
  | error fault => exact ⟨fault, rfl⟩
  | ok b =>
      have lacksRight := lacks.resolve_left fun lacksLeft =>
        nomatch (left.evaluate_of_lacks lacksLeft v).symm.trans valueLeft
      have failed := right.evaluate_of_lacks lacksRight v
      exact ⟨_, by simp only [ofPair] at failed ⊢; rw [failed]; rfl⟩

/-- A search over functions that were made is interrupted exactly if reports are blocked or
one of the functions lacks a variable. -/
theorem interrupted_ofPair_iff (left : f.Made) (right : g.Made) (session : Session) :
    (ofPair f g clock).Interrupted session ↔
      f.Lacks (ofPair f g clock).names ∨ g.Lacks (ofPair f g clock).names ∨
        session.standing.blocks = true := by
  have first : 0 < (ofPair f g clock).total := Nat.two_pow_pos _
  rw [← or_assoc, or_comm]
  refine or_congr_right ⟨?_, fun lacks => exists_valuesAt_ofPair_of_lacks left right lacks first⟩
  rintro ⟨fault, failed⟩
  refine Classical.byContradiction fun complete => ?_
  obtain ⟨entry, value⟩ := exists_valuesAt_ofPair left right complete first
  exact absurd (failed.symm.trans value) nofun

/-- A search over functions that were made is free, unless it is interrupted. -/
theorem free_ofPair (left : f.Made) (right : g.Made) {session : Session}
    (uninterrupted : ¬ (ofPair f g clock).Interrupted session) :
    (ofPair f g clock).Free session := by
  rw [interrupted_ofPair_iff left right, ← or_assoc, not_or] at uninterrupted
  obtain ⟨complete, unblocked⟩ := uninterrupted
  exact ⟨Bool.eq_false_iff.mpr unblocked, fun _ => exists_valuesAt_ofPair left right complete⟩

end OfPair

end Search

/-! ### Comparisons -/

namespace Comparison

variable {desk : Desk} {clock : Nat → Float} {f g : Option BooleanFunction}
variable {fields : List (String × Value)}

/-- The ledger of a search on two functions. It stays empty if no assignment comes up. -/
def searchLedger (options : Options) (clock : Nat → Float) (f g : Option BooleanFunction)
    (session : Session) : List (Bool × Bool) :=
  match f, g with
  | some f, some g =>
    let search := Search.ofPair f g clock
    match options.exceededBy search.names.length with
    | .ok false =>
      (search.ledgered search.total (session.note Level.debug
        ("enumerating " ++ toString search.total ++ " assignments of " ++
          ", ".intercalate search.names))).1
    | _ => []
  | _, _ => []

/-- The ledger of a run: the values of both functions, from one assignment to the next, where
both have been evaluated. -/
def ledger (desk : Desk) (clock : Nat → Float) (f g : Option BooleanFunction)
    (fields : List (String × Value)) : List (Bool × Bool) :=
  match Options.ofFields fields with
  | .error _ => []
  | .ok options =>
    match options.level, options.listing with
    | .ok level, .ok text => searchLedger options clock f g
        ((Session.begun desk level options.logRate).note Level.info text)
    | _, _ => []

/-- Is a run cut short at its first assignment? The options can be used, and the functions
are there and have not too many variables; but one of them lacks a variable, or reports are
blocked. -/
def CutShort (desk : Desk) (f g : Option BooleanFunction) (fields : List (String × Value)) : Prop :=
  ∃ f' g' options level, f = some f' ∧ g = some g' ∧ Options.ofFields fields = .ok options ∧
    options.level = .ok level ∧
    let names := unionNames (sortedNames f'.names) (sortedNames g'.names)
    options.exceededBy names.length = .ok false ∧
      (f'.Lacks names ∨ g'.Lacks names ∨
        (Session.begun desk level options.logRate).standing.blocks = true)

/-- How a run over some variables **accounts** for its verdict, by its ledger and its count. -/
inductive Accounts (names : List String) (cut : Prop) :
    Verdict → List (Bool × Bool) → Nat → Prop where
  /-- No assignment comes up. -/
  | unstarted {reason : String} (uncut : ¬ cut) : Accounts names cut (.failed reason) [] 0
  /-- The first assignment comes up, but the functions are not both evaluated. -/
  | cutShort {reason : String} (short : cut) : Accounts names cut (.failed reason) [] 1
  /-- All values agree. -/
  | agreement {ledger : List (Bool × Bool)} (uncut : ¬ cut) (all : Search.Agree ledger)
      (full : ledger.length = 2 ^ names.length) :
      Accounts names cut .equivalent ledger ledger.length
  /-- The values in the last entry do not agree. -/
  | difference {before : List (Bool × Bool)} {entry : Bool × Bool} (uncut : ¬ cut)
      (all : Search.Agree before) (differ : entry.1 ≠ entry.2) :
      Accounts names cut
        (.notEquivalent (Assignment.ofTruth (assignmentAt names before.length)).describe)
        (before ++ [entry]) (before.length + 1)

/-- A run on two functions that were made is cut short exactly if its search goes through their
assignments and is interrupted. -/
theorem cutShort_iff {f g : BooleanFunction} {options : Options} {level : Int} (left : f.Made)
    (right : g.Made) (given : Options.ofFields fields = .ok options)
    (usable : options.level = .ok level) {start : Session}
    (same : start.standing = (Session.begun desk level options.logRate).standing) :
    CutShort desk (some f) (some g) fields ↔
      options.exceededBy (Search.ofPair f g clock).names.length = .ok false ∧
        (Search.ofPair f g clock).Interrupted start := by
  rw [Search.interrupted_ofPair_iff left right, same]
  constructor
  · rintro ⟨_, _, options', level', found, found', given', usable', within, obstacle⟩
    cases found
    cases found'
    obtain rfl := Except.ok.inj (given.symm.trans given')
    obtain rfl := Except.ok.inj (usable.symm.trans usable')
    exact ⟨within, obstacle⟩
  · rintro ⟨within, obstacle⟩
    exact ⟨f, g, options, level, rfl, rfl, given, usable, within, obstacle⟩

/-- A search that goes through the assignments of two functions that were made accounts for its
verdict. -/
theorem accounts_ofPair {f g : BooleanFunction} {start : Session} {cut : Prop}
    (left : f.Made) (right : g.Made) (fresh : start.checked = 0)
    (cut_iff : cut ↔ (Search.ofPair f g clock).Interrupted start) :
    let search := Search.ofPair f g clock
    let found := search.ledgered search.total start
    Accounts search.names cut found.2.1 found.1 found.2.2.checked := by
  intro search found
  by_cases interrupted : search.Interrupted start
  · obtain ⟨empty, ⟨reason, failed⟩, count⟩ := interrupted.ledgered
    rw [empty, failed, count, fresh]
    exact .cutShort (cut_iff.mpr interrupted)
  · have uncut := mt cut_iff.mp interrupted
    have closes := (Search.free_ofPair left right interrupted).closes_total
    change Search.Closes search 0 start.checked found at closes
    rw [fresh] at closes
    generalize found = found at closes
    cases closes with
    | agreement all full count =>
        rw [Nat.zero_add] at full count
        rw [count]
        exact .agreement uncut all full
    | difference all differ _ count =>
        rw [Nat.zero_add] at count
        rw [count, Nat.zero_add]
        exact .difference uncut all differ

/-- A search that is the first thing in a run accounts for its verdict. -/
theorem accounts_search {options : Options} {level : Int}
    (made : ∀ h, f = some h ∨ g = some h → h.Made) (given : Options.ofFields fields = .ok options)
    (usable : options.level = .ok level) {start : Session}
    (same : start.standing = (Session.begun desk level options.logRate).standing) :
    let found := search options clock f g start
    Accounts found.1 (CutShort desk f g fields) found.2.1 (searchLedger options clock f g start)
      found.2.2.checked := by
  intro found
  have fresh : start.checked = 0 := congrArg Standing.checked same
  -- A search that stops before its first assignment has counted nothing.
  have stops {names : List String} {fault : Fault} (uncut : ¬ CutShort desk f g fields) :
      Accounts names (CutShort desk f g fields) (start.stop fault).1 []
        (start.stop fault).2.checked := by
    obtain ⟨⟨reason, failed⟩, count⟩ := start.exists_stop_failed fault
    rw [failed, count, fresh]
    exact .unstarted uncut
  by_cases missing : f = none ∨ g = none
  · have uncut : ¬ CutShort desk f g fields := by
      rintro ⟨f', g', -, -, rfl, rfl, -⟩
      exact missing.elim nofun nofun
    have empty : searchLedger options clock f g start = [] := by
      rcases missing with rfl | rfl
      · rfl
      · cases f <;> rfl
    simp only [found, search_of_missing missing, empty]
    exact stops uncut
  · obtain ⟨f, rfl⟩ := Option.ne_none_iff_exists'.mp (not_or.mp missing).1
    obtain ⟨g, rfl⟩ := Option.ne_none_iff_exists'.mp (not_or.mp missing).2
    have left := made f (.inl rfl)
    have right := made g (.inr rfl)
    have cut_iff {start : Session}
      (same : start.standing = (Session.begun desk level options.logRate).standing) :=
      @cutShort_iff desk clock fields f g options level left right given usable start same
    simp only [found, search_some, searchLedger]
    cases within : options.exceededBy (Search.ofPair f g clock).names.length with
    | error fault =>
        exact stops fun cut => absurd (within.symm.trans (cut_iff same |>.mp cut).1) nofun
    | ok exceeded =>
        cases exceeded with
        | true =>
            have uncut : ¬ CutShort desk (some f) (some g) fields := fun cut =>
              absurd (within.symm.trans (cut_iff same |>.mp cut).1) nofun
            rw [fresh]
            exact .unstarted uncut
        | false =>
            simp only [← Search.snd_ledgered]
            have noted (text : String) : (start.note Level.debug text).standing =
                (Session.begun desk level options.logRate).standing :=
              (Session.standing_note start Level.debug text).trans same
            refine accounts_ofPair left right (congrArg Standing.checked (noted _)) ?_
            exact (cut_iff (noted _)).trans (and_iff_right within)

/-- A run that comes to a verdict accounts for it by the ledger of its search. -/
theorem accounts_run (made : ∀ h, f = some h ∨ g = some h → h.Made) {verdict : Verdict}
    (answered : (run desk clock f g fields).outcome = .ok verdict) :
    let statistics := (run desk clock f g fields).comparison
    Accounts statistics.names (CutShort desk f g fields) verdict (ledger desk clock f g fields)
      statistics.checked := by
  intro statistics
  cases given : Options.ofFields fields with
  | error cause =>
      have uncut : ¬ CutShort desk f g fields := by
        rintro ⟨_, _, _, _, -, -, given', -⟩
        cases given.symm.trans given'
      simp only [run, given, refuse] at answered
      cases answered
      simp only [statistics, run, given, ledger, refuse]
      exact .unstarted uncut
  | ok options =>
      cases usable : options.level with
      | error cause =>
          have uncut : ¬ CutShort desk f g fields := by
            rintro ⟨_, _, _, _, -, -, given', usable', -⟩
            obtain rfl := Except.ok.inj (given.symm.trans given')
            cases usable.symm.trans usable'
          simp only [run, given, usable, refuse] at answered
          cases answered
          simp only [statistics, run, given, usable, ledger, refuse]
          exact .unstarted uncut
      | ok level =>
          cases listing : options.listing with
          | error fault =>
              cases (run_of_unlisted given usable listing desk clock f g).1.symm.trans answered
          | ok text =>
              obtain ⟨outcome, -, -, left⟩ := run_of_listed given usable listing desk clock f g
              obtain rfl := Except.ok.inj (outcome.symm.trans answered)
              simp only [statistics, left, ledger, given, usable, listing]
              exact accounts_search made given usable (Session.standing_note ..)

/-- The entries of a ledger are the values of both functions at the assignments of their
variables in turn. -/
theorem exists_evaluate_of_ledger {i : Nat} {entry : Bool × Bool}
    (entered : (ledger desk clock f g fields)[i]? = some entry) :
    ∃ f' g', f = some f' ∧ g = some g' ∧
      let names := (run desk clock f g fields).comparison.names
      names = unionNames (sortedNames f'.names) (sortedNames g'.names) ∧
        f'.evaluate (.ofTruth (assignmentAt names i)) = .ok entry.1 ∧
        g'.evaluate (.ofTruth (assignmentAt names i)) = .ok entry.2 := by
  unfold ledger at entered
  split at entered
  · cases entered
  · next options given =>
      split at entered
      · next level text usable listing =>
          obtain ⟨-, -, -, statistics⟩ := run_of_listed given usable listing desk clock f g
          unfold searchLedger at entered
          split at entered
          · next f' g' =>
              dsimp only at entered
              split at entered
              · next within =>
                  have value := Search.valuesAt_of_getElem?_ledgered (Nat.le_refl _) entered
                  rw [Nat.sub_self, Nat.zero_add] at value
                  obtain ⟨left, valueLeft, value⟩ := bind_eq_ok_iff.mp value
                  obtain ⟨right, valueRight, last⟩ := bind_eq_ok_iff.mp value
                  cases last
                  have names : (run desk clock (some f') (some g') fields).comparison.names =
                      (Search.ofPair f' g' clock).names := by
                    rw [statistics, search_some]
                    simp only [within]
                  refine ⟨f', g', rfl, rfl, ?_⟩
                  rw [names]
                  exact ⟨rfl, valueLeft, valueRight⟩
              · cases entered
          · cases entered
      · cases entered

end Comparison

namespace Bench

/-- The ledger of a call that is not refused: the values at the assignments at which both
functions have been evaluated. -/
def ledger (bench : Bench) (call : Call) : List (Bool × Bool) :=
  Comparison.ledger bench.desk call.clock call.request.left call.request.right call.request.fields

/-- Is a call cut short at its first assignment? -/
def CutShort (bench : Bench) (call : Call) : Prop :=
  Comparison.CutShort bench.desk call.request.left call.request.right call.request.fields

/-- A call that is answered leaves the run's verdict and statistics. -/
theorem call_eq_of_answered {bench : Bench} {call : Call} {verdict : Verdict}
    (answered : (bench.call call).1 = .ok verdict) :
    let run := Comparison.run bench.desk call.clock call.request.left call.request.right
      call.request.fields
    run.outcome = .ok verdict ∧ (bench.call call).2.comparison call.number = run.comparison := by
  unfold Bench.call at answered ⊢
  cases free : Entry.run.check call.request.fields with
  | error fault => rw [free] at answered; cases answered
  | ok free' =>
      rw [free] at answered
      exact ⟨answered, if_pos rfl⟩

/-- After a call on functions that were made, the **count** is the number of assignments at
which both functions have been evaluated, unless the call is cut short at its first
assignment. The functions are equivalent after the values at all assignments have been
entered, and they differ after those up to the first mismatch. A call that fails without
being cut short has not come to an assignment, and one that is cut short has counted one and
evaluated none. -/
theorem count_is_length_of_ledger (bench : Bench) (call : Call) {verdict : Verdict}
    (made : ∀ f, call.request.left = some f ∨ call.request.right = some f → f.Made)
    (answered : (bench.call call).1 = .ok verdict) :
    let statistics := (bench.call call).2.comparison call.number
    let ledger := bench.ledger call
    (∀ i entry, ledger[i]? = some entry → ∃ f g, call.request.left = some f ∧
        call.request.right = some g ∧
        statistics.names = unionNames (sortedNames f.names) (sortedNames g.names) ∧
        f.evaluate (.ofTruth (assignmentAt statistics.names i)) = .ok entry.1 ∧
        g.evaluate (.ofTruth (assignmentAt statistics.names i)) = .ok entry.2) ∧
      (statistics.checked = ledger.length ↔ ¬ bench.CutShort call) ∧
      (verdict = .equivalent → statistics.checked = 2 ^ statistics.names.length ∧
        statistics.checked = ledger.length ∧ ∀ entry ∈ ledger, entry.1 = entry.2) ∧
      (∀ text, verdict = .notEquivalent text → ∃ before entry, ledger = before ++ [entry] ∧
        statistics.checked = before.length + 1 ∧ (∀ entry ∈ before, entry.1 = entry.2) ∧
        entry.1 ≠ entry.2 ∧
        text = (Assignment.ofTruth (assignmentAt statistics.names before.length)).describe) ∧
      (∀ reason, verdict = .failed reason → ledger = [] ∧
        (¬ bench.CutShort call ∧ statistics.checked = 0 ∨
          bench.CutShort call ∧ statistics.checked = 1)) := by
  intro statistics ledger
  obtain ⟨answered, same⟩ := call_eq_of_answered answered
  have accounts := Comparison.accounts_run made answered
  refine ⟨fun i entry entered => ?_, ?_⟩
  · simp only [statistics, same]
    exact Comparison.exists_evaluate_of_ledger entered
  simp only [statistics, same]
  change Comparison.Accounts _ (bench.CutShort call) _ ledger _ at accounts
  generalize (Comparison.run bench.desk call.clock call.request.left call.request.right
    call.request.fields).comparison.checked = checked at accounts ⊢
  generalize ledger = ledger at accounts ⊢
  cases accounts with
  | unstarted uncut =>
      exact ⟨iff_of_true rfl uncut, nofun, nofun, fun _ _ => ⟨rfl, .inl ⟨uncut, rfl⟩⟩⟩
  | cutShort short =>
      exact ⟨iff_of_false nofun (not_not_intro short), nofun, nofun,
        fun _ _ => ⟨rfl, .inr ⟨short, rfl⟩⟩⟩
  | agreement uncut all full =>
      exact ⟨iff_of_true rfl uncut, fun _ => ⟨full, rfl, all⟩, nofun, nofun⟩
  | @difference before entry uncut all differ =>
      refine ⟨iff_of_true ?_ uncut, nofun, fun text found => ?_, nofun⟩
      · rw [List.length_append, List.length_singleton]
      · cases found
        exact ⟨before, entry, rfl, rfl, all, differ, rfl⟩

/-- The conjunction and the disjunction of two variables are compared. They agree at the
first assignment and differ at the second one: two assignments are counted, and there are two
entries. -/
theorem count_is_length_of_ledger_two :
    ∃ f g, BooleanFunction.ofNumber (.int 2) (.int 1) = .ok f ∧
      BooleanFunction.ofNumber (.int 2) (.int 7) = .ok g ∧
      let call : Call := ⟨0, presentClock, some f, some g, []⟩
      let outcome := (fresh .initial).call call
      outcome.1 = .ok (.notEquivalent "x1 = false, x2 = true") ∧
        (outcome.2.comparison 0).checked = 2 ∧ ((fresh .initial).ledger call).length = 2 ∧
        ¬ (fresh .initial).CutShort call := by
  let f : BooleanFunction := ⟨["x1", "x2"], [false, false, false, true], .number (.int 1)⟩
  let g : BooleanFunction := ⟨["x1", "x2"], [false, true, true, true], .number (.int 7)⟩
  have madeLeft : BooleanFunction.ofNumber (.int 2) (.int 1) = .ok f := rfl
  have madeRight : BooleanFunction.ofNumber (.int 2) (.int 7) = .ok g := rfl
  refine ⟨f, g, madeLeft, madeRight, ?_⟩
  intro call outcome
  have answered : outcome.1 = .ok (.notEquivalent "x1 = false, x2 = true") :=
    eq_ok_of_toOption (by decide)
  have checked : (outcome.2.comparison 0).checked = 2 := by decide
  have made (h : BooleanFunction) (either : some f = some h ∨ some g = some h) : h.Made := by
    rcases either with same | same
    · cases same; exact .number madeLeft
    · cases same; exact .number madeRight
  obtain ⟨-, counts, -, differ, -⟩ := count_is_length_of_ledger (fresh .initial) call made answered
  obtain ⟨before, entry, entries, count, -⟩ := differ _ rfl
  have long : ((fresh .initial).ledger call).length = 2 := by
    rw [entries, List.length_append, List.length_singleton, ← count, checked]
  exact ⟨answered, checked, long, counts.mp (checked.trans long.symm)⟩

/-- The function of one variable with the number 1 lacks the variable of `y`. The first
assignment is **counted, but not evaluated**. -/
theorem count_beyond_ledger :
    ∃ f g, BooleanFunction.ofNumber (.int 1) (.int 1) = .ok f ∧
      BooleanFunction.ofFormula "y" = .ok g ∧
      let call : Call := ⟨0, presentClock, some f, some g, []⟩
      let outcome := (fresh .initial).call call
      outcome.1 = .ok (.failed
          "cannot compare functions: no row of the truth table matches x1 = false, y = false") ∧
        (fresh .initial).ledger call = [] ∧ (outcome.2.comparison 0).checked = 1 := by
  let f : BooleanFunction := ⟨["x1"], [false, true], .number (.int 1)⟩
  let g : BooleanFunction := ⟨["y"], [false, true], .formula "y" [.var "y"]⟩
  refine ⟨f, g, rfl, rfl, eq_ok_of_toOption ?_, ?_, ?_⟩
  · decide
  · decide
  · decide

end Bench

end Junctor
