import Junctor.Comparison.Bench
import Junctor.Proofs.Outcomes
import Junctor.Proofs.Search

/-!
# Calls Are Independent of Their History

Comparisons share their loggers, and every call changes them: the level while it runs, the
rate that is stored in the limiter, and the time of the last record that passed. Nothing of
this shows in the answer to a later call. What a run finds hangs on its *standing* alone: the
level and the rate, the levels above, whether the limiter is on, and the count. A run begins
by setting the level and the rate to those of its own options, so that what earlier calls
have left there is gone. The rest of the standing, the *footing*, is never changed by a call.
The time of the last record that passed and the readings of the clock are no part of the
standing: they decide which reports get into the log, and a report that does not is no
failure.

Two runs are compared step by step: a note and a report keep the standing, whether a report
fails hangs on the standing, and so searches that start with the same standing and fare alike
at each number come to ends with the same number. If they go through the same assignments,
these are the same end.

## Main results

* `Session.report_of_sticks`, `Session.exists_report_of_not_sticks`: when a report fails, and
  that it keeps the standing if it does not.
* `Search.Parallel.difference`: searches that run in parallel come to ends that match.
* `Search.Alike.difference`: searches that are alike come to the same end.
* `Comparison.run_congr`: runs on desks of the same footing find the same.
* `Bench.footing_after`: no history changes the footing.
* `Bench.history_leaves_no_trace`: a call after any history is as the first one.
-/

namespace Junctor

/-! ### What counts for a run -/

/-- What **no call changes** of the loggers, whatever its options are and however it ends. -/
structure Footing where
  /-- The levels of the loggers above. -/
  above : List Int
  /-- Is the limiter on? -/
  active : Bool

/-- What **counts** of the state of a comparison for what it finds. Two runs that stand alike
find the same, whatever else has been logged before. -/
structure Standing where
  /-- The level of the logger. -/
  level : Int
  /-- The rate that is stored in the limiter. -/
  rate : Value
  /-- What no call changes of the loggers. -/
  footing : Footing
  /-- The number of assignments that have come up. -/
  checked : Nat

/-- The footing of a desk. -/
def Desk.footing (desk : Desk) : Footing :=
  { above := desk.above, active := desk.limiter.active }

/-- The standing of a session. -/
def Session.standing (session : Session) : Standing :=
  { level := session.desk.level
    rate := session.desk.limiter.rate
    footing := session.desk.footing
    checked := session.checked }

namespace Standing

/-- A logger for progress with the levels of the standing. -/
def progressLogger (standing : Standing) : Logger Number.Scalar Value :=
  { level := Level.notSet, above := standing.level :: standing.footing.above, limiter := none }

/-- Does a report of progress get stuck, because it gets as far as the rate and the rate is no
number? -/
def sticks (standing : Standing) (text : String) : Bool :=
  standing.progressLogger.admits { level := Level.info, text } && standing.footing.active &&
    standing.rate.toScalar?.isNone

end Standing

namespace Session

/-- A note keeps the standing. -/
@[simp] theorem standing_note (session : Session) (level : Int) (text : String) :
    (session.note level text).standing = session.standing := by
  unfold note
  split <;> rfl

/-- The end of a search that cannot go on keeps the standing. -/
@[simp] theorem standing_stop (session : Session) (fault : Fault) :
    (session.stop fault).2.standing = session.standing := by
  cases fault <;> simp only [stop, standing_note]

/-- What a search comes to that cannot go on hangs on the fault alone. -/
theorem stop_verdict (session other : Session) (fault : Fault) :
    (session.stop fault).1 = (other.stop fault).1 := by
  cases fault <;> rfl

/-- The end of a search that cannot go on is a failure and counts nothing. -/
theorem exists_stop_failed (session : Session) (fault : Fault) :
    (∃ reason, (session.stop fault).1 = .failed reason) ∧
      (session.stop fault).2.checked = session.checked :=
  ⟨by cases fault <;> exact ⟨_, rfl⟩, congrArg Standing.checked (session.standing_stop fault)⟩

/-- A report that gets stuck fails, and its message names the type of the rate. -/
theorem report_of_sticks {session : Session} {text : String}
    (stuck : session.standing.sticks text = true) (now : Float) :
    session.report now text =
      .error (.unordered ">=" "float" session.standing.rate.typeName) := by
  rw [Standing.sticks, Bool.and_eq_true, Bool.and_eq_true, Option.isNone_iff_eq_none] at stuck
  obtain ⟨⟨reached, on⟩, odd⟩ := stuck
  have reached : session.desk.progressLogger.admits { level := Level.info, text } = true := reached
  simp only [report, reached, RateLimiter.pass?_eq_error on odd]
  rfl

/-- A report that does not get stuck **keeps the standing**, whether it gets into the log or
not. -/
theorem exists_report_of_not_sticks {session : Session} {text : String}
    (free : ¬ session.standing.sticks text = true) (now : Float) :
    ∃ next, session.report now text = .ok next ∧ next.standing = session.standing := by
  simp only [report]
  cases reached : session.desk.progressLogger.admits { level := Level.info, text } with
  | false => exact ⟨session, rfl, rfl⟩
  | true =>
      have ready : session.desk.limiter.active = true →
          session.desk.limiter.rate.toScalar? ≠ none := by
        intro on odd
        rw [Standing.sticks, Bool.and_eq_true, Bool.and_eq_true, Option.isNone_iff_eq_none] at free
        exact free ⟨⟨reached, on⟩, odd⟩
      obtain ⟨passed, limiter, decided, active, rate⟩ :=
        RateLimiter.exists_pass?_eq_ok ready (.float now)
      rw [decided]
      refine ⟨_, rfl, ?_⟩
      simp only [standing, Desk.footing, active, rate]

/-- Searches that cannot go on come to the same end if they have the same standing. -/
theorem stop_congr {session other : Session} (same : session.standing = other.standing)
    (fault : Fault) :
    Prod.map id standing (session.stop fault) = Prod.map id standing (other.stop fault) := by
  refine Prod.ext (stop_verdict session other fault) ?_
  rw [Prod.map_snd, Prod.map_snd, standing_stop, standing_stop, same]

/-- On desks of the same footing, runs with the same level and rate begin with the same
standing, whatever rate and level the desks were left with. -/
theorem standing_begun_congr {desk desk' : Desk} (same : desk.footing = desk'.footing)
    (level : Int) (rate : Value) :
    (begun desk level rate).standing = (begun desk' level rate).standing :=
  congrArg (fun footing : Footing => Standing.mk level rate footing 0) same

/-- The session with one assignment more that has come up. -/
def counting (session : Session) : Session := { session with checked := session.checked + 1 }

/-- Sessions of the same standing count alike. -/
theorem standing_counting_congr {session other : Session}
    (same : session.standing = other.standing) :
    session.counting.standing = other.counting.standing :=
  congrArg (fun standing : Standing => { standing with checked := standing.checked + 1 }) same

/-- Counting leaves the footing as it was. -/
theorem footing_counting (session : Session) :
    session.counting.standing.footing = session.standing.footing := rfl

end Session

/-! ### Searches -/

namespace Search

variable {search other : Search}

/-- The searches run **in parallel**: they have as many assignments, and at assignments with
the same number the functions of both agree, or differ, or cannot be evaluated for the same
reason. The assignments themselves may differ, and so may the clocks. -/
structure Parallel (search other : Search) : Prop where
  /-- The numbers of assignments are the same. -/
  total : search.total = other.total
  /-- At assignments with the same number the functions fare the same. -/
  agreeAt : ∀ index < search.total,
    search.agreeAt (search.assignment index) = other.agreeAt (other.assignment index)

/-- Two verdicts **match**: they are the same, or they give the assignments with the same
number. -/
inductive Matches (search other : Search) : Verdict → Verdict → Prop where
  /-- Both find agreement. -/
  | equivalent : Matches search other .equivalent .equivalent
  /-- Both find a difference at the assignment with a number. -/
  | notEquivalent {index : Nat} (below : index < search.total) :
      Matches search other (.notEquivalent (search.assignment index).describe)
        (.notEquivalent (other.assignment index).describe)
  /-- Both fail for the same reason. -/
  | failed (reason : String) : Matches search other (.failed reason) (.failed reason)

/-- The searches are **alike**: they go through the same assignments, and at each of these
the functions of both agree, or differ, or cannot be evaluated for the same reason. The
clocks may differ. -/
structure Alike (search other : Search) : Prop where
  /-- The names are the same. -/
  names : search.names = other.names
  /-- At each assignment the functions fare the same. -/
  agreeAt : ∀ index < search.total,
    search.agreeAt (search.assignment index) = other.agreeAt (search.assignment index)

/-- The text about the progress of a search. -/
def progress (search : Search) (checked : Nat) : String :=
  toString checked ++ " of " ++ toString search.total ++ " assignments checked"

/-- A search takes one step: it counts, reports, and asks whether the functions agree. -/
theorem difference_succ (search : Search) (remaining : Nat) (session : Session) :
    search.difference (remaining + 1) session =
      match session.counting.report (search.clock session.counting.checked)
          (search.progress session.counting.checked) with
      | .error fault => session.counting.stop fault
      | .ok next =>
        match search.agreeAt (search.assignment (search.total - (remaining + 1))) with
        | .error fault => next.stop fault
        | .ok true => search.difference remaining next
        | .ok false =>
          (.notEquivalent (search.assignment (search.total - (remaining + 1))).describe, next) :=
  rfl

/-- A search leaves the footing as it was. -/
theorem footing_difference (search : Search) (remaining : Nat) (session : Session) :
    (search.difference remaining session).2.standing.footing = session.standing.footing := by
  induction remaining generalizing session with
  | zero => rfl
  | succ remaining ih =>
      rw [difference_succ]
      by_cases stuck : session.counting.standing.sticks
          (search.progress session.counting.checked) = true
      · simp only [Session.report_of_sticks stuck, Session.standing_stop, Session.footing_counting]
      · obtain ⟨next, reported, kept⟩ := Session.exists_report_of_not_sticks stuck
          (search.clock session.counting.checked)
        have same : next.standing.footing = session.standing.footing := by
          rw [kept, Session.footing_counting]
        simp only [reported]
        split
        · rw [Session.standing_stop, same]
        · rw [ih, same]
        · exact same

/-- The ends of searches that cannot go on match. -/
theorem matches_stop (session session' : Session) (fault : Fault) :
    Matches search other (session.stop fault).1 (session'.stop fault).1 := by
  rw [Session.stop_verdict session' session]
  obtain ⟨⟨reason, failed⟩, -⟩ := session.exists_stop_failed fault
  rw [failed]
  exact .failed reason

/-- From the same standing, searches that run in parallel **come to ends that match**, with
the same standing. -/
theorem Parallel.difference (parallel : search.Parallel other) {remaining : Nat}
    (within : remaining ≤ search.total) {session session' : Session}
    (same : session.standing = session'.standing) :
    Matches search other (search.difference remaining session).1
        (other.difference remaining session').1 ∧
      (search.difference remaining session).2.standing =
        (other.difference remaining session').2.standing := by
  induction remaining generalizing session session' with
  | zero => exact ⟨.equivalent, same⟩
  | succ remaining ih =>
      have counted := Session.standing_counting_congr same
      have count : session.counting.checked = session'.counting.checked :=
        congrArg Standing.checked counted
      have progress : search.progress session.counting.checked =
          other.progress session'.counting.checked := by
        rw [Search.progress, Search.progress, parallel.total, count]
      have stops {session session' : Session} (same : session.standing = session'.standing)
          (fault : Fault) : Matches search other (session.stop fault).1 (session'.stop fault).1 ∧
            (session.stop fault).2.standing = (session'.stop fault).2.standing :=
        ⟨matches_stop session session' fault, by
          rw [Session.standing_stop, Session.standing_stop, same]⟩
      rw [difference_succ, difference_succ, ← progress, ← count]
      -- Whether a report gets stuck hangs on the standing, so that the searches get stuck
      -- together.
      by_cases stuck : session.counting.standing.sticks
          (search.progress session.counting.checked) = true
      · rw [Session.report_of_sticks stuck, Session.report_of_sticks (counted ▸ stuck), ← counted]
        exact stops counted _
      · obtain ⟨next, reported, kept⟩ := Session.exists_report_of_not_sticks stuck
          (search.clock session.counting.checked)
        obtain ⟨next', reported', kept'⟩ := Session.exists_report_of_not_sticks (counted ▸ stuck)
          (other.clock session.counting.checked)
        have same : next.standing = next'.standing := kept.trans (counted.trans kept'.symm)
        have below : search.total - (remaining + 1) < search.total := by omega
        have here := parallel.agreeAt _ below
        rw [reported, reported', ← parallel.total, ← here]
        cases search.agreeAt (search.assignment (search.total - (remaining + 1))) with
        | error fault => exact stops same fault
        | ok agree =>
            cases agree with
            | true => exact ih (by omega) same
            | false => exact ⟨.notEquivalent below, same⟩

/-- Searches that are alike have as many assignments. -/
theorem Alike.total_eq (alike : search.Alike other) : search.total = other.total := by
  rw [total, total, alike.names]

/-- Searches that are alike have the same assignments. -/
theorem Alike.assignment_eq (alike : search.Alike other) (index : Nat) :
    search.assignment index = other.assignment index := by
  rw [assignment, assignment, alike.names]

/-- From the same standing, searches that are alike **come to the same end**, with the same
count and on the same footing. -/
theorem Alike.difference (alike : search.Alike other) {remaining : Nat}
    (within : remaining ≤ search.total) {session session' : Session}
    (same : session.standing = session'.standing) :
    Prod.map id Session.standing (search.difference remaining session) =
      Prod.map id Session.standing (other.difference remaining session') := by
  have parallel : search.Parallel other :=
    { total := alike.total_eq
      agreeAt := fun index below => alike.assignment_eq index ▸ alike.agreeAt index below }
  obtain ⟨found, standing⟩ := parallel.difference within same
  refine Prod.ext ?_ standing
  show (search.difference remaining session).1 = (other.difference remaining session').1
  generalize (search.difference remaining session).1 = verdict at found
  generalize (other.difference remaining session').1 = verdict' at found
  cases found with
  | equivalent => rfl
  | notEquivalent below => rw [alike.assignment_eq]
  | failed reason => rfl

/-- The search over the variables of two functions, which are sorted and taken together. -/
def ofPair (f g : BooleanFunction) (clock : Nat → Float) : Search :=
  { left := f, right := g, names := unionNames (sortedNames f.names) (sortedNames g.names), clock }

/-- A search is like itself by another clock. -/
theorem alike_ofPair (f g : BooleanFunction) (clock clock' : Nat → Float) :
    (ofPair f g clock).Alike (ofPair f g clock') :=
  { names := rfl, agreeAt := fun _ _ => rfl }

end Search

/-! ### Comparisons -/

namespace Comparison

variable {f g f' g' : Option BooleanFunction} {fields : List (String × Value)} {options : Options}
variable {level : Int}

/-- Two pairs of functions fare alike: with the same options and from the same standing,
searches find the same variables and come to the same end. -/
def Alike (f g f' g' : Option BooleanFunction) : Prop :=
  ∀ (options : Options) (clock clock' : Nat → Float) (session other : Session),
    session.standing = other.standing →
      Prod.map id (Prod.map id Session.standing) (search options clock f g session) =
        Prod.map id (Prod.map id Session.standing) (search options clock' f' g' other)

/-- A search on two functions goes over their variables, unless these are too many. -/
theorem search_some (options : Options) (clock : Nat → Float) (f g : BooleanFunction)
    (session : Session) :
    search options clock (some f) (some g) session =
      let search := Search.ofPair f g clock
      match options.exceededBy search.names.length with
      | .error fault => (search.names, session.stop fault)
      | .ok true =>
        (search.names, .failed ("too many variables (" ++ toString search.names.length ++
          ") for comparison, at most " ++ options.maxVariables.plain ++ " are supported"), session)
      | .ok false =>
        (search.names, search.difference search.total (session.note Level.debug
          ("enumerating " ++ toString search.total ++ " assignments of " ++
            ", ".intercalate search.names))) :=
  rfl

/-- Without one of the functions a search stops at once. -/
theorem search_of_missing {clock : Nat → Float} (missing : f = none ∨ g = none)
    (session : Session) :
    search options clock f g session =
      ([], session.stop (.noMember (Value.typeName .null) "variable_names")) := by
  rcases missing with rfl | rfl
  · rfl
  · cases f <;> rfl

/-- Pairs of functions fare alike if searches over their variables are alike. -/
theorem alike_of_search {f g f' g' : BooleanFunction}
    (alike : ∀ clock clock', (Search.ofPair f g clock).Alike (Search.ofPair f' g' clock')) :
    Alike (some f) (some g) (some f') (some g') := by
  intro options clock clock' session other same
  have alike := alike clock clock'
  rw [search_some, search_some]
  simp only [← alike.names, ← alike.total_eq]
  cases options.exceededBy (Search.ofPair f g clock).names.length with
  | error fault => exact congrArg (Prod.mk _) (Session.stop_congr same fault)
  | ok exceeded =>
      cases exceeded with
      | true => exact congrArg (fun standing => (_, _, standing)) same
      | false =>
          refine congrArg (Prod.mk _) (alike.difference (Nat.le_refl _) ?_)
          rw [Session.standing_note, Session.standing_note, same]

/-- Any pair fares like itself. -/
theorem alike_self (f g : Option BooleanFunction) : Alike f g f g := by
  rcases Classical.em (f = none ∨ g = none) with missing | given
  · intro options clock clock' session other same
    rw [search_of_missing missing, search_of_missing missing]
    exact congrArg (Prod.mk _) (Session.stop_congr same _)
  · obtain ⟨f, rfl⟩ := Option.ne_none_iff_exists'.mp (not_or.mp given).1
    obtain ⟨g, rfl⟩ := Option.ne_none_iff_exists'.mp (not_or.mp given).2
    exact alike_of_search (Search.alike_ofPair f g)

/-- A search on two functions leaves the footing as it was. -/
theorem footing_search (options : Options) (clock : Nat → Float) (f g : Option BooleanFunction)
    (session : Session) :
    (search options clock f g session).2.2.standing.footing = session.standing.footing := by
  cases f with
  | none => rw [search_of_missing (.inl rfl), Session.standing_stop]
  | some f =>
      cases g with
      | none => rw [search_of_missing (.inr rfl), Session.standing_stop]
      | some g =>
          rw [search_some]
          dsimp only
          split
          · rw [Session.standing_stop]
          · rfl
          · rw [Search.footing_difference, Session.standing_note]

/-! #### What a run comes to

With options that cannot be used a run ends in a refusal, which hangs on the options alone.
With options that can be used but have no listing it is broken off. In all other cases it
goes as its search does.
-/

/-- A run whose options cannot be used refuses them, and leaves the desk as it was. -/
theorem exists_refusal_of_unusable
    (unusable : ∀ options level, Options.ofFields fields = .ok options →
      options.level ≠ .ok level) :
    ∃ options cause, ∀ desk clock f g, run desk clock f g fields = refuse desk options cause := by
  cases given : Options.ofFields fields with
  | error cause => exact ⟨{}, cause, fun _ _ _ _ => by simp only [run, given]⟩
  | ok options =>
      cases usable : options.level with
      | error cause => exact ⟨options, cause, fun _ _ _ _ => by simp only [run, given, usable]⟩
      | ok level => exact absurd usable (unusable options level given)

/-- A run whose options have no listing is broken off. It has compared nothing, and of the
desk it has changed the rate and the level only. -/
theorem run_of_unlisted (given : Options.ofFields fields = .ok options)
    (usable : options.level = .ok level) {fault : Fault} (unlisted : options.listing = .error fault)
    (desk : Desk) (clock : Nat → Float) (f g : Option BooleanFunction) :
    let run := run desk clock f g fields
    run.outcome = .error fault ∧ run.desk.footing = desk.footing ∧
      run.desk.level = desk.mainLogger.levelInForce ∧ run.comparison = { options } := by
  unfold run
  rw [given]
  dsimp only
  rw [usable]
  dsimp only
  rw [unlisted]
  exact ⟨rfl, rfl, rfl, rfl⟩

/-- A run whose options have a listing leaves the end of its search, with the options, the
variables and the count. -/
theorem run_of_listed (given : Options.ofFields fields = .ok options)
    (usable : options.level = .ok level) {text : String} (listed : options.listing = .ok text)
    (desk : Desk) (clock : Nat → Float) (f g : Option BooleanFunction) :
    let start := (Session.begun desk level options.logRate).note Level.info text
    let found := search options clock f g start
    let run := run desk clock f g fields
    run.outcome = .ok found.2.1 ∧ run.desk.footing = found.2.2.standing.footing ∧
      run.desk.level = desk.mainLogger.levelInForce ∧ run.comparison =
        { options, names := found.1, checked := found.2.2.standing.checked, timed := true } := by
  have noted := Session.standing_note
  unfold run
  rw [given]
  dsimp only
  rw [usable]
  dsimp only
  rw [listed]
  refine ⟨rfl, congrArg Standing.footing (noted _ _ _), rfl, ?_⟩
  exact congrArg (fun standing : Standing => Comparison.mk options _ standing.checked true)
    (noted _ _ _)

/-- A run leaves the footing of the desk as it was. -/
theorem footing_run (desk : Desk) (clock : Nat → Float) (f g : Option BooleanFunction)
    (fields : List (String × Value)) :
    (run desk clock f g fields).desk.footing = desk.footing := by
  by_cases usable : ∃ options level, Options.ofFields fields = .ok options ∧
    options.level = .ok level
  · obtain ⟨options, level, given, usable⟩ := usable
    cases listing : options.listing with
    | error fault => exact (run_of_unlisted given usable listing desk clock f g).2.1
    | ok text =>
        obtain ⟨-, kept, -⟩ := run_of_listed given usable listing desk clock f g
        rw [kept, footing_search, Session.standing_note]
        rfl
  · obtain ⟨options, cause, refused⟩ := exists_refusal_of_unusable
      fun options level given usable' => usable ⟨options, level, given, usable'⟩
    rw [refused]
    rfl

/-- On desks of the same footing, runs on pairs that fare alike find the same, since a run
sets for itself whatever else it depends on. -/
theorem run_congr (alike : Alike f g f' g') {desk desk' : Desk}
    (same : desk.footing = desk'.footing) (clock clock' : Nat → Float)
    (fields : List (String × Value)) :
    (run desk clock f g fields).outcome = (run desk' clock' f' g' fields).outcome ∧
      (run desk clock f g fields).comparison = (run desk' clock' f' g' fields).comparison := by
  by_cases usable : ∃ options level, Options.ofFields fields = .ok options ∧
    options.level = .ok level
  · obtain ⟨options, level, given, usable⟩ := usable
    cases listing : options.listing with
    | error fault =>
        obtain ⟨outcome, -, -, statistics⟩ := run_of_unlisted given usable listing desk clock f g
        obtain ⟨outcome', -, -, statistics'⟩ :=
          run_of_unlisted given usable listing desk' clock' f' g'
        exact ⟨outcome.trans outcome'.symm, statistics.trans statistics'.symm⟩
    | ok text =>
        obtain ⟨outcome, -, -, statistics⟩ := run_of_listed given usable listing desk clock f g
        obtain ⟨outcome', -, -, statistics'⟩ :=
          run_of_listed given usable listing desk' clock' f' g'
        have found := alike options clock clock'
          ((Session.begun desk level options.logRate).note Level.info text)
          ((Session.begun desk' level options.logRate).note Level.info text) (by
            rw [Session.standing_note, Session.standing_note]
            exact Session.standing_begun_congr same level options.logRate)
        rw [outcome, outcome', statistics, statistics']
        exact ⟨congrArg (fun found => Except.ok found.2.1) found,
          congrArg (fun found => Comparison.mk options found.1 found.2.2.checked true) found⟩
  · obtain ⟨options, cause, refused⟩ := exists_refusal_of_unusable
      fun options level given usable' => usable ⟨options, level, given, usable'⟩
    rw [refused, refused]
    exact ⟨rfl, rfl⟩

end Comparison

/-! ### Calls -/

namespace Bench

variable {f g f' g' : Option BooleanFunction} {fields : List (String × Value)}

/-- A call leaves the footing of the desk as it was. -/
theorem footing_call (bench : Bench) (call : Call) :
    (bench.call call).2.desk.footing = bench.desk.footing := by
  unfold Bench.call
  split
  · rfl
  · exact Comparison.footing_run ..

/-- **No history changes the footing** of the desk, by induction on the calls. -/
theorem footing_after (bench : Bench) (calls : List Call) :
    (bench.after calls).desk.footing = bench.desk.footing := by
  induction calls generalizing bench with
  | nil => rfl
  | cons call calls ih =>
      calc (bench.after (call :: calls)).desk.footing
          = ((bench.call call).2.after calls).desk.footing := rfl
        _ = (bench.call call).2.desk.footing := ih _
        _ = bench.desk.footing := footing_call bench call

/-- At benches of the same footing, calls on pairs that fare alike come to the same, whichever
comparisons are called and whatever the clocks say. -/
theorem call_congr (alike : Comparison.Alike f g f' g') {bench bench' : Bench}
    (same : bench.desk.footing = bench'.desk.footing) (number number' : Nat)
    (clock clock' : Nat → Float) (fields : List (String × Value)) :
    (bench.call ⟨number, clock, f, g, fields⟩).1 =
        (bench'.call ⟨number', clock', f', g', fields⟩).1 ∧
      (Entry.run.check fields = .ok () →
        (bench.call ⟨number, clock, f, g, fields⟩).2.comparison number =
          (bench'.call ⟨number', clock', f', g', fields⟩).2.comparison number') := by
  obtain ⟨outcome, statistics⟩ := Comparison.run_congr alike same clock clock' fields
  simp only [call]
  cases Entry.run.check fields with
  | error fault => exact ⟨rfl, nofun⟩
  | ok free =>
      refine ⟨outcome, fun _ => ?_⟩
      simp only [if_true, statistics]

/-- A call after any **history** of calls, of the same comparison and of others, is answered
as it is if nothing has been called before, whatever the clock says. And unless it is refused
for an option that bears the name of an argument, it leaves the same statistics: the options,
the variables, the count, and whether its time was taken. -/
theorem history_leaves_no_trace (desk : Desk) (calls : List Call) (number number' : Nat)
    (clock clock' : Nat → Float) (request : Request) :
    (((fresh desk).after calls).call ⟨number, clock, request⟩).1 =
        ((fresh desk).call ⟨number', clock', request⟩).1 ∧
      (Entry.run.check request.fields = .ok () →
        (((fresh desk).after calls).call ⟨number, clock, request⟩).2.comparison number =
          ((fresh desk).call ⟨number', clock', request⟩).2.comparison number') :=
  call_congr (Comparison.alike_self request.left request.right)
    (footing_after (fresh desk) calls) number number' clock clock' request.fields

/-- The conjunction and the disjunction of two variables are compared by the comparison 0
with a rate that is no number, then without a function, and then by another one with an
option that does not exist. After that the comparison 0 finds the difference at the second
assignment. -/
theorem history_leaves_no_trace_wrong_rate :
    ∃ f g, BooleanFunction.ofNumber (.int 2) (.int 1) = .ok f ∧
      BooleanFunction.ofNumber (.int 2) (.int 7) = .ok g ∧
      let calls : List Call :=
        [⟨0, fun _ => 1, some f, some g, [("log_level", .text "INFO"), ("log_rate", .text "1")]⟩,
          ⟨0, fun _ => 2, none, some g, []⟩, ⟨1, fun _ => 3, some f, some g, [("level", .int 0)]⟩]
      let outcome := ((fresh .initial).after calls).call ⟨0, fun _ => 4, some f, some g, []⟩
      outcome.1 = .ok (.notEquivalent "x1 = false, x2 = true") ∧
        (outcome.2.comparison 0).names = ["x1", "x2"] ∧ (outcome.2.comparison 0).checked = 2 := by
  let f : BooleanFunction := ⟨["x1", "x2"], [false, false, false, true], .number (.int 1)⟩
  let g : BooleanFunction := ⟨["x1", "x2"], [false, true, true, true], .number (.int 7)⟩
  refine ⟨f, g, rfl, rfl, ?_⟩
  intro calls outcome
  have answer : compare (some f) (some g) [] = .ok (.notEquivalent "x1 = false, x2 = true") :=
    eq_ok_of_toOption (by decide)
  obtain ⟨same, statistics⟩ :=
    history_leaves_no_trace .initial calls 0 0 (fun _ => 4) presentClock ⟨some f, some g, []⟩
  have statistics := statistics rfl
  refine ⟨same.trans answer, ?_, ?_⟩
  · exact (congrArg Comparison.names statistics).trans (by decide)
  · exact (congrArg Comparison.checked statistics).trans (by decide)

end Bench

end Junctor
