import Junctor.Log.Logger
import Junctor.Proofs.RateLimits

/-!
# Records That Are Dropped

A logger asks three questions of a record, and only the last one, which goes to the rate
limiter, changes anything. It is asked last, so that a record which is dropped for its level
or its text does not use up the rate: the limiter that decides on a record has seen those
before it that were admitted, and no others. A sequence of records therefore ends with the
same limiter, and all other records have the same decisions, if those that are dropped are
left out.

A record whose level is silenced is dropped, too, even where it reaches the level in force.

## Main results

* `Logger.log_of_admits`, `Logger.log_of_not_admits`: what logging one record does.
* `Logger.snd_logAll`: the logger after a sequence of records.
* `Logger.exists_decision`: the decision on each of them.
* `Logger.logAll_filter`: records that are not admitted may be left out.
* `Logger.dropped_records_leave_no_trace`: when a record passes, and that those dropped use
  up nothing.
* `Logger.silenced_record_dropped`: a record that reaches the level in force and does not pass.
-/

namespace Junctor

/-- A record that comes at a certain **time**, as a limiter is told it. -/
structure Arrival (τ : Type) where
  /-- When the record comes. -/
  time : τ
  /-- The record. -/
  record : Record

namespace Logger

variable {τ : Type}

/-- Is a record dropped for its level, which does not reach the one in force, or for its
text, which is blank? -/
def drops (logger : Logger τ) (record : Record) : Bool :=
  record.level < logger.levelInForce || Text.isBlankText record.text

/-- A record that is admitted is not dropped. -/
theorem not_drops_of_admits {logger : Logger τ} {record : Record}
    (admitted : logger.admits record = true) : (!logger.drops record) = true := by
  simp only [admits, enabledFor, drops, Bool.and_eq_true, decide_eq_true_eq, Bool.not_eq_true',
    Bool.or_eq_false_iff, decide_eq_false_iff_not] at admitted ⊢
  exact ⟨Int.not_lt.mpr admitted.1.2, admitted.2⟩

/-- What the limiter is asked in the course of some records: about those that are admitted. -/
def asked (logger : Logger τ) (arrivals : List (Arrival τ)) : List (RateLimiter.Event τ) :=
  (arrivals.filter fun arrival => logger.admits arrival.record).map
    fun arrival => .record arrival.time

variable [Sub τ] [LE τ] [DecidableLE τ] (logger : Logger τ)

/-! ### One record -/

/-- A record that is not admitted does not pass and **changes nothing**, since the limiter is
not even asked about it. -/
theorem log_of_not_admits (now : τ) {record : Record} (dropped : logger.admits record = false) :
    logger.log now record = (false, logger) := by
  simp [log, dropped]

/-- On a record that is admitted the limiter decides, and where there is none the record
passes. -/
theorem log_of_admits (now : τ) {record : Record} (admitted : logger.admits record = true) :
    logger.log now record =
      (logger.limiter.all fun limiter => (limiter.pass now).1,
        { logger with limiter := logger.limiter.map fun limiter => (limiter.pass now).2 }) := by
  obtain ⟨level, above, limiter⟩ := logger
  cases limiter <;> simp [log, admitted]

/-- A record passes exactly if its level is not silenced and reaches the level in force, its
text is not blank, and the limiter lets it pass. -/
theorem log_passes_iff (now : τ) (record : Record) :
    (logger.log now record).1 = true ↔
      Level.silenced < record.level ∧ logger.levelInForce ≤ record.level ∧
        Text.isBlankText record.text = false ∧
        ∀ limiter ∈ logger.limiter, (limiter.pass now).1 = true := by
  have gates : logger.admits record = true ↔
      Level.silenced < record.level ∧ logger.levelInForce ≤ record.level ∧
        Text.isBlankText record.text = false := by
    simp [admits, enabledFor, and_assoc]
  cases admitted : logger.admits record with
  | false =>
      rw [log_of_not_admits _ _ admitted]
      constructor
      · intro passes
        cases passes
      · rintro ⟨loud, reaches, said, -⟩
        rw [gates.mpr ⟨loud, reaches, said⟩] at admitted
        cases admitted
  | true =>
      obtain ⟨loud, reaches, said⟩ := gates.mp admitted
      rw [log_of_admits _ _ admitted]
      constructor
      · intro passes
        exact ⟨loud, reaches, said, (Option.all_eq_true _ _).mp passes⟩
      · rintro ⟨-, -, -, passes⟩
        exact (Option.all_eq_true _ _).mpr passes

/-- Logging a record changes the limiter at most. -/
theorem exists_limiter_log (now : τ) (record : Record) :
    ∃ limiter, (logger.log now record).2 = { logger with limiter := limiter } := by
  cases admitted : logger.admits record with
  | false => exact ⟨logger.limiter, by rw [log_of_not_admits _ _ admitted]⟩
  | true => exact ⟨_, by rw [log_of_admits _ _ admitted]⟩

/-! ### Sequences of records -/

/-- Log records one after the other: each with the decision on it, and the logger
afterwards. -/
def logAll (logger : Logger τ) : List (Arrival τ) → List (Arrival τ × Bool) × Logger τ
  | [] => ([], logger)
  | arrival :: arrivals =>
    let (passed, next) := logger.log arrival.time arrival.record
    let (decisions, last) := next.logAll arrivals
    ((arrival, passed) :: decisions, last)

/-- The first record is logged before the others. -/
theorem logAll_cons (arrival : Arrival τ) (arrivals : List (Arrival τ)) :
    logger.logAll (arrival :: arrivals) =
      ((arrival, (logger.log arrival.time arrival.record).1) ::
          ((logger.log arrival.time arrival.record).2.logAll arrivals).1,
        ((logger.log arrival.time arrival.record).2.logAll arrivals).2) := rfl

/-- **A sequence of records changes only the limiter**, and this only as far as it has been
asked about those admitted. -/
theorem snd_logAll (arrivals : List (Arrival τ)) :
    (logger.logAll arrivals).2 =
      { logger with
        limiter := logger.limiter.map fun limiter => limiter.after (logger.asked arrivals) } := by
  induction arrivals generalizing logger with
  | nil => cases logger; simp [logAll, asked, RateLimiter.after]
  | cons arrival arrivals ih =>
      rw [logAll_cons, ih]
      cases admitted : logger.admits arrival.record with
      | false =>
          have same : logger.asked (arrival :: arrivals) = logger.asked arrivals := by
            simp [asked, admitted]
          rw [log_of_not_admits _ _ admitted, same]
      | true =>
          have more : logger.asked (arrival :: arrivals) =
              .record arrival.time :: logger.asked arrivals := by
            simp [asked, admitted]
          rw [log_of_admits _ _ admitted, more, Option.map_map]
          rfl

/-- The decision on a record is that of the logger after the records before it. -/
theorem getElem?_logAll (arrivals : List (Arrival τ)) (i : Nat) :
    (logger.logAll arrivals).1[i]? = arrivals[i]?.map fun arrival =>
      (arrival, ((logger.logAll (arrivals.take i)).2.log arrival.time arrival.record).1) := by
  induction arrivals generalizing logger i with
  | nil => rfl
  | cons arrival arrivals ih =>
      cases i with
      | zero => rfl
      | succ i => exact ih (logger.log arrival.time arrival.record).2 i

/-- A record in a sequence passes **exactly if** its level is not silenced and reaches the
level in force, its text is not blank, and the limiter lets it pass after it was asked about
the records admitted before. -/
theorem exists_decision {arrivals : List (Arrival τ)} {i : Nat} {arrival : Arrival τ}
    (found : arrivals[i]? = some arrival) :
    ∃ passed, (logger.logAll arrivals).1[i]? = some (arrival, passed) ∧
      (passed = true ↔ Level.silenced < arrival.record.level ∧
        logger.levelInForce ≤ arrival.record.level ∧
        Text.isBlankText arrival.record.text = false ∧
        ∀ limiter ∈ logger.limiter,
          ((limiter.after (logger.asked (arrivals.take i))).pass arrival.time).1 = true) := by
  refine ⟨_, by rw [getElem?_logAll, found, Option.map_some], ?_⟩
  rw [snd_logAll, log_passes_iff]
  simp only [Option.mem_def, Option.map_eq_some_iff, forall_exists_index, and_imp,
    forall_apply_eq_imp_iff₂]
  rfl

/-- Records that are not admitted **may be left out**, all of them or some: the decisions on
the others are the same, and so is the logger afterwards. -/
theorem logAll_filter {keep : Arrival τ → Bool} (arrivals : List (Arrival τ))
    (kept : ∀ arrival, logger.admits arrival.record = true → keep arrival = true) :
    (logger.logAll arrivals).1.filter (fun decision => keep decision.1) =
        (logger.logAll (arrivals.filter keep)).1 ∧
      (logger.logAll arrivals).2 = (logger.logAll (arrivals.filter keep)).2 := by
  induction arrivals generalizing logger with
  | nil => exact ⟨rfl, rfl⟩
  | cons arrival arrivals ih =>
      obtain ⟨limiter, next⟩ := logger.exists_limiter_log arrival.time arrival.record
      have rest := ih (logger.log arrival.time arrival.record).2 (by rw [next]; exact kept)
      cases stays : keep arrival with
      | true =>
          simp only [logAll_cons, List.filter_cons, stays, if_true]
          exact ⟨congrArg _ rest.1, rest.2⟩
      | false =>
          have dropped : logger.admits arrival.record = false :=
            Bool.eq_false_iff.mpr fun admitted => by
              rw [kept arrival admitted] at stays
              cases stays
          rw [log_of_not_admits _ _ dropped] at rest
          simp only [logAll_cons, List.filter_cons, stays, log_of_not_admits _ _ dropped,
            Bool.false_eq_true, if_false]
          exact rest

/-! ### Records that are dropped -/

/-- A record in a sequence passes **exactly if** its level is not silenced and reaches the
level in force, its text is not blank, and the limiter lets it pass after it was asked about
the records admitted before. The decisions on all others, and the logger afterwards with its
limiter, are the same as if the records that are **dropped for their level or their text**
had not been logged at all. -/
theorem dropped_records_leave_no_trace (arrivals : List (Arrival τ)) :
    (∀ i arrival, arrivals[i]? = some arrival →
        ∃ passed, (logger.logAll arrivals).1[i]? = some (arrival, passed) ∧
          (passed = true ↔ Level.silenced < arrival.record.level ∧
            logger.levelInForce ≤ arrival.record.level ∧
            Text.isBlankText arrival.record.text = false ∧
            ∀ limiter ∈ logger.limiter,
              ((limiter.after (logger.asked (arrivals.take i))).pass arrival.time).1 = true)) ∧
      (logger.logAll arrivals).1.filter (fun decision => !logger.drops decision.1.record) =
        (logger.logAll (arrivals.filter fun arrival => !logger.drops arrival.record)).1 ∧
      (logger.logAll arrivals).2 =
        (logger.logAll (arrivals.filter fun arrival => !logger.drops arrival.record)).2 :=
  ⟨fun _ _ found => logger.exists_decision found,
    logger.logAll_filter arrivals fun _ => not_drops_of_admits⟩

/-- Records at 20, 25, 26 and 30, of which the second is blank and the third too low: at a
rate of ten, the last one **passes**. -/
theorem dropped_records_leave_no_trace_last :
    let logger : Logger Int := ⟨Level.info, root, some (.starting 0 10)⟩
    let arrivals : List (Arrival Int) := [⟨20, ⟨Level.info, "a"⟩⟩, ⟨25, ⟨Level.info, " "⟩⟩,
      ⟨26, ⟨Level.debug, "b"⟩⟩, ⟨30, ⟨Level.info, "c"⟩⟩]
    arrivals[3]? = some ⟨30, ⟨Level.info, "c"⟩⟩ ∧
      (∃ passed, (logger.logAll arrivals).1[3]? = some (⟨30, ⟨Level.info, "c"⟩⟩, passed) ∧
        passed = true) ∧
      (logger.logAll arrivals).2 =
        (logger.logAll [⟨20, ⟨Level.info, "a"⟩⟩, ⟨30, ⟨Level.info, "c"⟩⟩]).2 := by
  intro logger arrivals
  obtain ⟨decided, -, same⟩ := logger.dropped_records_leave_no_trace arrivals
  obtain ⟨passed, found, exactly⟩ := decided 3 _ rfl
  refine ⟨rfl, ⟨passed, found, exactly.mpr ⟨by decide, by decide, by decide, ?_⟩⟩, same⟩
  rintro limiter ⟨⟩
  decide

/-- A record may **reach the level in force** and say something without passing, also where
no limiter stands in its way: its level is one that is silenced. -/
theorem silenced_record_dropped :
    ¬ ∀ (logger : Logger Int) (arrivals : List (Arrival Int)) (i : Nat) (arrival : Arrival Int),
      arrivals[i]? = some arrival →
        ∃ passed, (logger.logAll arrivals).1[i]? = some (arrival, passed) ∧
          (passed = true ↔ logger.levelInForce ≤ arrival.record.level ∧
            Text.isBlankText arrival.record.text = false ∧
            ∀ limiter ∈ logger.limiter,
              ((limiter.after (logger.asked (arrivals.take i))).pass arrival.time).1 = true) := by
  intro decided
  let logger : Logger Int := ⟨-1, root, none⟩
  obtain ⟨passed, found, exactly⟩ := decided logger [⟨0, ⟨0, "zero"⟩⟩] 0 _ rfl
  have dropped : (logger.logAll [⟨0, ⟨0, "zero"⟩⟩]).1[0]? = some (⟨0, ⟨0, "zero"⟩⟩, false) := rfl
  have passes : passed = true := exactly.mpr ⟨by decide, by decide, nofun⟩
  rw [dropped, passes] at found
  cases found

end Logger

end Junctor
