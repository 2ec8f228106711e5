import Junctor.Comparison

/-!
# What a Search Comes To

The search for a difference goes through the assignments one by one, reports its progress and
stops at the first assignment at which the functions do not agree. With a numeric rate no
report fails, so that a search comes to one of three ends: the functions agree at all
assignments, they differ at the first one at which they do not agree, or they cannot be
evaluated there.

## Main results

* `Session.report_eq_ok`: with a numeric rate a report does not fail and counts nothing.
* `Search.difference_ends`: the three ends of a search.
-/

namespace Junctor

/-- With a numeric rate a report does not fail, and it leaves the rate and the count alone. -/
theorem Session.report_eq_ok {session : Session}
    (numeric : session.desk.limiter.rate.toScalar? ≠ none) (now : Float) (text : String) :
    ∃ next, session.report now text = .ok next ∧
      next.desk.limiter.rate = session.desk.limiter.rate ∧ next.checked = session.checked := by
  simp only [report]
  split
  · exact ⟨session, rfl, rfl, rfl⟩
  · obtain ⟨passed, limiter, decided, -, rate⟩ :=
      RateLimiter.exists_pass?_eq_ok (fun _ => numeric) (.float now)
    rw [decided]
    exact ⟨_, rfl, rate, rfl⟩

namespace Search

/-- The assignment that comes up with a number, counted from 0. -/
def assignment (search : Search) (index : Nat) : Assignment :=
  .ofTruth (assignmentAt search.names index)

/-- Do the functions agree everywhere from one number up to another? -/
def AgreeBetween (search : Search) (start stop : Nat) : Prop :=
  ∀ index, start ≤ index → index < stop → search.agreeAt (search.assignment index) = .ok true

/-- What a search that starts at a number **comes to**, with `checked` assignments before
it. -/
inductive Ends (search : Search) (start checked : Nat) : Verdict × Session → Prop where
  /-- The functions agree at all assignments. -/
  | agreement {last : Session} (all : search.AgreeBetween start search.total)
      (count : last.checked = checked + (search.total - start)) :
      Ends search start checked (.equivalent, last)
  /-- The functions differ at the first assignment at which they do not agree. -/
  | difference {last : Session} {index : Nat} (after : start ≤ index)
      (below : index < search.total) (before : search.AgreeBetween start index)
      (here : search.agreeAt (search.assignment index) = .ok false)
      (count : last.checked = checked + (index - start) + 1) :
      Ends search start checked (.notEquivalent (search.assignment index).describe, last)
  /-- The functions cannot be evaluated at the first assignment at which they do not agree. -/
  | failure {last : Session} {index : Nat} {fault : Fault} (after : start ≤ index)
      (below : index < search.total) (before : search.AgreeBetween start index)
      (here : search.agreeAt (search.assignment index) = .error fault)
      (count : last.checked = checked + (index - start) + 1) :
      Ends search start checked (last.stop fault)

/-- Where the functions agree at one assignment more, they agree up to it. -/
theorem AgreeBetween.cons {search : Search} {start stop : Nat}
    (here : search.agreeAt (search.assignment start) = .ok true)
    (after : search.AgreeBetween (start + 1) stop) : search.AgreeBetween start stop := by
  intro index low high
  rcases Nat.eq_or_lt_of_le low with rfl | later
  · exact here
  · exact after index later high

/-- Where the functions agree at an assignment, a search that starts at it comes to what one
comes to that starts behind it. -/
theorem Ends.cons {search : Search} {start checked : Nat} {outcome : Verdict × Session}
    (below : start < search.total) (here : search.agreeAt (search.assignment start) = .ok true)
    (ends : Ends search (start + 1) (checked + 1) outcome) : Ends search start checked outcome := by
  cases ends with
  | agreement all count => exact .agreement (all.cons here) (by omega)
  | difference after below before found count =>
      exact .difference (by omega) below (before.cons here) found (by omega)
  | failure after below before found count =>
      exact .failure (by omega) below (before.cons here) found (by omega)

/-- A search with a numeric rate **comes to one of the ends**: it finds equality, a
difference, or a function that has no value. -/
theorem difference_ends {search : Search} {remaining : Nat}
    (within : remaining ≤ search.total) {session : Session}
    (numeric : session.desk.limiter.rate.toScalar? ≠ none) :
    Ends search (search.total - remaining) session.checked
      (search.difference remaining session) := by
  induction remaining generalizing session with
  | zero =>
      refine .agreement (fun index low high => ?_) (by omega)
      omega
  | succ remaining ih =>
      have below : search.total - (remaining + 1) < search.total := by omega
      have nothing : search.AgreeBetween (search.total - (remaining + 1))
          (search.total - (remaining + 1)) := by
        intro index low high
        omega
      obtain ⟨next, reported, rate, same⟩ := @Session.report_eq_ok
        { session with checked := session.checked + 1 } numeric (search.clock (session.checked + 1))
        (toString (session.checked + 1) ++ " of " ++ toString search.total ++
          " assignments checked")
      have count : next.checked = session.checked + 1 := same
      cases here : search.agreeAt (search.assignment (search.total - (remaining + 1))) with
      | error fault =>
          have stops : search.difference (remaining + 1) session = next.stop fault := by
            rw [assignment] at here
            simp only [difference, reported, here]
          rw [stops]
          exact .failure (Nat.le_refl _) below nothing here (by omega)
      | ok agree =>
          cases agree with
          | false =>
              have stops : search.difference (remaining + 1) session =
                  (.notEquivalent
                    (search.assignment (search.total - (remaining + 1))).describe, next) := by
                rw [assignment] at here
                simp only [difference, reported, here]
                rfl
              rw [stops]
              exact .difference (Nat.le_refl _) below nothing here (by omega)
          | true =>
              have goesOn : search.difference (remaining + 1) session =
                  search.difference remaining next := by
                rw [assignment] at here
                simp only [difference, reported, here]
              have ends := ih (Nat.le_of_succ_le within) (rate ▸ numeric)
              have up : search.total - remaining = search.total - (remaining + 1) + 1 := by omega
              rw [up, count] at ends
              rw [goesOn]
              exact ends.cons below here

/-- A search through all assignments comes to one of the ends. -/
theorem difference_total_ends {search : Search} {session : Session}
    (numeric : session.desk.limiter.rate.toScalar? ≠ none) :
    Ends search 0 session.checked (search.difference search.total session) := by
  have ends := difference_ends (Nat.le_refl search.total) numeric
  rwa [Nat.sub_self] at ends

end Search

end Junctor
