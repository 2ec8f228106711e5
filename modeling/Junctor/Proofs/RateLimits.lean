import Mathlib.Algebra.Order.Group.Unbundled.Basic
import Mathlib.Algebra.Order.Ring.Int
import Junctor.Log.RateLimiter

/-!
# The Distance Between Records That Pass

A rate limiter that is on compares the time of a record with the one time that it remembers.
That is the time of the last record that it let pass *while it was on*: what passes while it
is off is not written down. So a record that passes while the limiter is on keeps the rate as
its distance from all records that did so before, but it may come right after one that passed
while the limiter was off.

The records that pass are listed with the state of the switch, and one invariant ties the
list to the remembered time. Each event keeps it, so that it survives switching off and on
and new rates between any two records. Times may be of any ordered group.

## Main results

* `RateLimiter.lastPassed_step`, `RateLimiter.lastPassed_after`: the invariant.
* `RateLimiter.passes_while_on_iff`: when a record passes while the limiter is on.
* `RateLimiter.distance_while_on`: the distance that is kept, and from which records.
* `RateLimiter.close_after_switch`: a record that comes too close after one that passed while
  the limiter was off.
-/

namespace Junctor.RateLimiter

variable {τ : Type}

/-- A record that **passed**, and whether it passed a limiter that was on. -/
structure Passage (τ : Type) where
  /-- When the record came. -/
  time : τ
  /-- Was the limiter on? -/
  guarded : Bool
  deriving DecidableEq

/-- The time of an event, if it is a record. -/
def Event.time? : Event τ → Option τ
  | .record now => some now
  | _ => none

/-- Does an event come with a time or a rate that is not negative? -/
def Event.IsNonneg [Zero τ] [LE τ] : Event τ → Prop
  | .record now => 0 ≤ now
  | .setRate rate => 0 ≤ rate
  | _ => True

instance [Zero τ] [LE τ] [DecidableLE τ] (event : Event τ) : Decidable event.IsNonneg :=
  match event with
  | .record now => inferInstanceAs (Decidable (0 ≤ now))
  | .setRate rate => inferInstanceAs (Decidable (0 ≤ rate))
  | .switchOn => .isTrue trivial
  | .switchOff => .isTrue trivial

/-- The clock never goes backward over some events. -/
def Forward [LE τ] (events : List (Event τ)) : Prop :=
  (events.filterMap Event.time?).Pairwise (· ≤ ·)

instance [LE τ] [DecidableLE τ] (events : List (Event τ)) : Decidable (Forward events) :=
  inferInstanceAs (Decidable ((events.filterMap Event.time?).Pairwise (· ≤ ·)))

/-! ### Passages in their order -/

/-- The time of the last record that passed while the limiter was on, or `origin` if there is
none. -/
def lastGuarded (origin : τ) (passages : List (Passage τ)) : τ :=
  ((passages.filter (·.guarded)).getLast?.map Passage.time).getD origin

/-- What passed later takes the place of what passed earlier. -/
theorem lastGuarded_append (origin : τ) (earlier later : List (Passage τ)) :
    lastGuarded origin (earlier ++ later) = lastGuarded (lastGuarded origin earlier) later := by
  unfold lastGuarded
  rw [List.filter_append, List.getLast?_append]
  cases (later.filter (·.guarded)).getLast? <;> rfl

/-- If the times increase, no record that passed while the limiter was on came later than the
last. -/
theorem time_le_lastGuarded [Preorder τ] (origin : τ) {passages : List (Passage τ)}
    (ordered : (passages.map Passage.time).Pairwise (· ≤ ·)) {passage : Passage τ}
    (passed : passage ∈ passages) (guarded : passage.guarded = true) :
    passage.time ≤ lastGuarded origin passages := by
  have kept : passage ∈ passages.filter (·.guarded) := List.mem_filter.mpr ⟨passed, guarded⟩
  obtain ⟨initial, last, split⟩ :=
    (List.eq_nil_or_concat (passages.filter (·.guarded))).resolve_left (List.ne_nil_of_mem kept)
  rw [List.concat_eq_append] at split
  have latest : lastGuarded origin passages = last.time := by
    rw [lastGuarded, split, List.getLast?_concat]
    rfl
  have increasing : ((initial ++ [last]).map Passage.time).Pairwise (· ≤ ·) :=
    split ▸ ordered.sublist (List.filter_sublist.map _)
  rw [List.map_append, List.pairwise_append] at increasing
  rw [split, List.mem_append, List.mem_singleton] at kept
  rw [latest]
  rcases kept with earlier | rfl
  · exact increasing.2.2 _ (List.mem_map_of_mem earlier) _ (List.mem_singleton_self _)
  · exact le_refl _

/-! ### Runs -/

section Runs

variable [Sub τ] [LE τ] [DecidableLE τ] (limiter : RateLimiter τ)

/-- The limiter after some events. -/
def after (events : List (Event τ)) : RateLimiter τ :=
  events.foldl (fun limiter event => (limiter.step event).2) limiter

/-- What passes at an event, if the event is a record and the limiter lets it pass. -/
def passage? : Event τ → Option (Passage τ)
  | .record now => if (limiter.pass now).1 then some ⟨now, limiter.active⟩ else none
  | _ => none

/-- The records that pass in the course of some events, in their order. -/
def passages (limiter : RateLimiter τ) : List (Event τ) → List (Passage τ)
  | [] => []
  | event :: events => (limiter.passage? event).toList ++ passages (limiter.step event).2 events

/-- An event makes the limiter remember **what passes at it** while the limiter is on. -/
theorem lastPassed_step (event : Event τ) :
    (limiter.step event).2.lastPassed =
      lastGuarded limiter.lastPassed (limiter.passage? event).toList := by
  cases event with
  | record now =>
      cases on : limiter.active with
      | false => simp [step, pass, passage?, lastGuarded, on]
      | true =>
          by_cases late : limiter.rate ≤ now - limiter.lastPassed
          · simp [step, pass, passage?, lastGuarded, on, late]
          · simp [step, pass, passage?, lastGuarded, on, late]
  | switchOn => rfl
  | switchOff => rfl
  | setRate rate => rfl

/-- After some events the limiter remembers the **last record that passed while it was on**,
and no other. -/
theorem lastPassed_after (events : List (Event τ)) :
    (limiter.after events).lastPassed =
      lastGuarded limiter.lastPassed (limiter.passages events) := by
  induction events generalizing limiter with
  | nil => rfl
  | cons event events ih =>
      calc (limiter.after (event :: events)).lastPassed
          = lastGuarded (limiter.step event).2.lastPassed
              ((limiter.step event).2.passages events) :=
            ih (limiter.step event).2
        _ = lastGuarded limiter.lastPassed (limiter.passages (event :: events)) := by
            rw [lastPassed_step, passages, lastGuarded_append]

/-- What passes is among the records, in their order. -/
theorem sublist_passages (events : List (Event τ)) :
    ((limiter.passages events).map Passage.time).Sublist (events.filterMap Event.time?) := by
  induction events generalizing limiter with
  | nil => exact List.Sublist.slnil
  | cons event events ih =>
      have rest := ih (limiter.step event).2
      cases event with
      | record now =>
          by_cases passed : (limiter.pass now).1 = true
          · simpa [passages, passage?, passed, Event.time?] using rest.cons_cons now
          · simpa [passages, passage?, passed, Event.time?] using rest.cons now
      | switchOn => exact rest
      | switchOff => exact rest
      | setRate rate => exact rest

/-- While nobody switches it off, a limiter stays on. -/
theorem active_step (on : limiter.active = true) {event : Event τ} (kept : event ≠ .switchOff) :
    (limiter.step event).2.active = true := by
  cases event with
  | record now =>
      by_cases late : limiter.rate ≤ now - limiter.lastPassed <;> simp [step, pass, on, late]
  | switchOn => rfl
  | switchOff => exact absurd rfl kept
  | setRate rate => exact on

/-- While nobody switches it off, a limiter is on whenever a record passes. -/
theorem guarded_of_never_off (on : limiter.active = true) {events : List (Event τ)}
    (kept : .switchOff ∉ events) : ∀ passage ∈ limiter.passages events, passage.guarded = true := by
  induction events generalizing limiter with
  | nil => exact nofun
  | cons event events ih =>
      rw [List.mem_cons, not_or] at kept
      intro passage passed
      rw [passages, List.mem_append] at passed
      rcases passed with now | later
      · cases event with
        | record time =>
            rw [Option.mem_toList, passage?, Option.ite_none_right_eq_some] at now
            rw [← Option.some.inj now.2]
            exact on
        | _ => cases now
      · exact ih _ (limiter.active_step on (Ne.symm kept.1)) kept.2 passage later

/-- A record passes while the limiter is on **exactly if** it comes the current rate or more
after the last record that passed while it was on. -/
theorem passes_while_on_iff {before : List (Event τ)} (on : (limiter.after before).active = true)
    (now : τ) :
    ((limiter.after before).pass now).1 = true ↔
      (limiter.after before).rate ≤
        now - lastGuarded limiter.lastPassed (limiter.passages before) := by
  rw [← lastPassed_after, pass, on]
  by_cases late : (limiter.after before).rate ≤ now - (limiter.after before).lastPassed <;>
    simp [late]

end Runs

/-! ### Distances -/

/-- A record that passes while the limiter is on keeps the current rate as its distance from
all records that passed before it while the limiter was on. -/
theorem distance_of_passes [AddCommGroup τ] [LinearOrder τ] [IsOrderedAddMonoid τ]
    (limiter : RateLimiter τ) {before : List (Event τ)} {now : τ} (forward : Forward before)
    (on : (limiter.after before).active = true)
    (passes : ((limiter.after before).pass now).1 = true) {passage : Passage τ}
    (passed : passage ∈ limiter.passages before) (guarded : passage.guarded = true) :
    (limiter.after before).rate ≤ now - passage.time := by
  have ordered : ((limiter.passages before).map Passage.time).Pairwise (· ≤ ·) :=
    forward.sublist (limiter.sublist_passages before)
  calc (limiter.after before).rate
      ≤ now - lastGuarded limiter.lastPassed (limiter.passages before) :=
        (limiter.passes_while_on_iff on now).mp passes
    _ ≤ now - passage.time := sub_le_sub_left (time_le_lastGuarded _ ordered passed guarded) now

/-- The **distance** that a limiter keeps. While it is on, a record passes exactly if it
comes the current rate or more after the last record that passed while it was on, or after
the time that it counts from. One that passes has this distance from all records that passed
while the limiter was on. It may be closer to the last record that passed only if that one
passed **while the limiter was off**; if nobody has switched it off, it never is. -/
theorem distance_while_on [AddCommGroup τ] [LinearOrder τ] [IsOrderedAddMonoid τ]
    (limiter : RateLimiter τ) {before : List (Event τ)} {now : τ}
    (forward : Forward before) (on : (limiter.after before).active = true) :
    (((limiter.after before).pass now).1 = true ↔
        (limiter.after before).rate ≤
          now - lastGuarded limiter.lastPassed (limiter.passages before)) ∧
      (((limiter.after before).pass now).1 = true →
        (∀ passage ∈ limiter.passages before, passage.guarded = true →
            (limiter.after before).rate ≤ now - passage.time) ∧
          (∀ last ∈ (limiter.passages before).getLast?,
            now - last.time < (limiter.after before).rate → last.guarded = false) ∧
          (limiter.active = true → .switchOff ∉ before →
            ∀ last ∈ (limiter.passages before).getLast?,
              (limiter.after before).rate ≤ now - last.time)) := by
  refine ⟨limiter.passes_while_on_iff on now, fun passes => ?_⟩
  have kept : ∀ passage ∈ limiter.passages before, passage.guarded = true →
      (limiter.after before).rate ≤ now - passage.time := fun _ =>
    limiter.distance_of_passes forward on passes
  refine ⟨kept, fun last latest close => ?_, fun initially never last latest => ?_⟩
  · cases guarded : last.guarded with
    | false => rfl
    | true => exact absurd (kept last (List.mem_of_getLast? latest) guarded) (not_le_of_gt close)
  · have passed := List.mem_of_getLast? latest
    exact kept last passed (limiter.guarded_of_never_off initially never last passed)

/-- A limiter that is **switched off in between**: the record at 105 passes while it is off,
and does not count when the one at 110 comes, which is the rate after the one at 100. -/
theorem distance_while_on_switched :
    let limiter : RateLimiter Int := .starting 0 0
    let before : List (Event Int) :=
      [.setRate 10, .record 100, .switchOff, .record 105, .switchOn]
    Forward before ∧ (limiter.after before).active = true ∧
      ((limiter.after before).pass 110).1 = true ∧
      ∀ passage ∈ limiter.passages before, passage.guarded = true →
        (limiter.after before).rate ≤ 110 - passage.time := by
  intro limiter before
  have forward : Forward before := by decide
  have passes : ((limiter.after before).pass 110).1 = true := by decide
  exact ⟨forward, rfl, passes, ((limiter.distance_while_on forward rfl).2 passes).1⟩

/-- A record may pass **too close** to the last one that passed: one that passes while the
limiter is off is not remembered, and when the limiter is on again, a record passes a second
later at a rate of ten. -/
theorem close_after_switch :
    ¬ ∀ (before : List (Event Int)) (now : Int),
      let limiter : RateLimiter Int := .starting 0 0
      (∀ event ∈ before ++ [.record now], event.IsNonneg) → Forward (before ++ [.record now]) →
        (limiter.after before).active = true → ((limiter.after before).pass now).1 = true →
          ∀ last ∈ (limiter.passages before).getLast?,
            (limiter.after before).rate ≤ now - last.time := by
  intro kept
  let before : List (Event Int) := [.setRate 10, .switchOff, .record 100, .switchOn]
  have distance := kept before 101 (by decide) (by decide) rfl (by decide) ⟨100, false⟩ rfl
  exact absurd distance (by decide)

end Junctor.RateLimiter
