import Junctor.Proofs.Independence

/-!
# The Level of the Log After Calls

While a comparison runs, its logger has the level of the options, and at the end it gets the
level that was in force at the start. If the logger had a level of its own, this is what it
had before. A logger that follows those above it is left with their level as its own: it does
not follow them any more. A call that is refused, or whose options cannot be used, ends
before the level is set.

The level in force is not changed by any call, and so one call with usable options does to
the level what many of them do.

## Main results

* `Level.inForce_inForce`: the level in force, once set, is in force.
* `Bench.level_call`, `Bench.level_after`: the level after one call and after a sequence of
  them.
* `Bench.levels_after_calls`: the levels after a sequence of calls, and when they are those
  before.
* `Bench.following_logger_detached`: a logger that follows those above it does not get its
  level back.
-/

namespace Junctor

/-- A level that is in force stays in force when it is set, whatever the loggers above have. -/
theorem Level.inForce_inForce (level : Int) (above : List Int) :
    inForce (inForce level above) above = inForce level above := by
  by_cases free : inForce level above = notSet
  · have unset : level = notSet := Decidable.byContradiction fun other =>
      other ((inForce_of_ne other above).symm.trans free)
    rw [unset] at free
    rw [unset, free, free]
  · exact inForce_of_ne free above

/-- Does a comparison that is called with a request set the level? It does not if the call is
refused, or if the options cannot be used. A run that is broken off later has set it. -/
def Request.runs (request : Request) : Bool :=
  match Entry.run.check request.fields, Options.ofFields request.fields >>= Options.level with
  | .ok _, .ok _ => true
  | _, _ => false

namespace Comparison

/-- A run leaves the level that was in force at the start, if its options can be used, and
else the level as it was. -/
theorem level_run (desk : Desk) (clock : Nat → Float) (f g : Option BooleanFunction)
    (fields : List (String × Value)) :
    (run desk clock f g fields).desk.level =
      match Options.ofFields fields >>= Options.level with
      | .ok _ => desk.mainLogger.levelInForce
      | .error _ => desk.level := by
  cases given : Options.ofFields fields with
  | error cause => simp only [run, given]; rfl
  | ok options =>
      show _ = match options.level with
        | .ok _ => desk.mainLogger.levelInForce
        | .error _ => desk.level
      cases usable : options.level with
      | error cause => simp only [run, given, usable]; rfl
      | ok level =>
          cases listing : options.listing with
          | error fault => exact (run_of_unlisted given usable listing desk clock f g).2.2.1
          | ok text => exact (run_of_listed given usable listing desk clock f g).2.2.1

end Comparison

namespace Bench

/-- One call leaves **the level that was in force**, if the comparison runs, and else the
level as it was. -/
theorem level_call (bench : Bench) (call : Call) :
    (bench.call call).2.desk.level =
      if call.request.runs then bench.desk.mainLogger.levelInForce else bench.desk.level := by
  unfold Bench.call Request.runs
  cases Entry.run.check call.request.fields with
  | error fault => rfl
  | ok free =>
      dsimp only
      rw [Comparison.level_run]
      cases Options.ofFields call.request.fields >>= Options.level <;> rfl

/-- A call leaves the level in force as it was. -/
theorem levelInForce_call (bench : Bench) (call : Call) :
    (bench.call call).2.desk.mainLogger.levelInForce = bench.desk.mainLogger.levelInForce := by
  have above : (bench.call call).2.desk.above = bench.desk.above :=
    congrArg Footing.above (footing_call bench call)
  show Level.inForce (bench.call call).2.desk.level (bench.call call).2.desk.above = _
  rw [level_call, above]
  split
  · exact Level.inForce_inForce ..
  · rfl

/-- A sequence of calls leaves **the level that was in force**, if one of the comparisons
runs, and else the level as it was. -/
theorem level_after (bench : Bench) (calls : List Call) :
    (bench.after calls).desk.level =
      if calls.any (·.request.runs) then bench.desk.mainLogger.levelInForce
      else bench.desk.level := by
  induction calls generalizing bench with
  | nil => rfl
  | cons call calls ih =>
      show ((bench.call call).2.after calls).desk.level = _
      rw [ih, levelInForce_call, level_call, List.any_cons]
      cases call.request.runs with
      | true => exact ite_self _
      | false => rfl

/-- A **sequence of calls** leaves the levels above as they were, and it leaves the level
that was in force if one of the comparisons runs, and else the level as it was. So the level
is the one before **exactly if** it was set, or no comparison runs, or the levels above are
not set either. -/
theorem levels_after_calls (bench : Bench) (calls : List Call) :
    (bench.after calls).desk.above = bench.desk.above ∧
      (bench.after calls).desk.level =
        (if calls.any (·.request.runs) then Level.inForce bench.desk.level bench.desk.above
          else bench.desk.level) ∧
      ((bench.after calls).desk.level = bench.desk.level ↔
        bench.desk.level ≠ Level.notSet ∨ (∀ call ∈ calls, call.request.runs = false) ∨
          Level.inForce Level.notSet bench.desk.above = Level.notSet) := by
  have above : (bench.after calls).desk.above = bench.desk.above :=
    congrArg Footing.above (footing_after bench calls)
  have level : (bench.after calls).desk.level =
      if calls.any (·.request.runs) then Level.inForce bench.desk.level bench.desk.above
      else bench.desk.level := level_after bench calls
  refine ⟨above, level, ?_⟩
  rw [level]
  by_cases unset : bench.desk.level = Level.notSet
  · have noneRuns : calls.any (·.request.runs) = false ↔
        ∀ call ∈ calls, call.request.runs = false := by
      simp
    rw [unset, ← noneRuns]
    cases calls.any (·.request.runs) with
    | true => simp
    | false => simp
  · rw [Level.inForce_of_ne unset, ite_self]
    exact iff_of_true rfl (.inl unset)

/-- A logger that **follows the root** is left with the level of the root as its own, when a
function is compared with itself. -/
theorem following_logger_detached :
    ∃ f, BooleanFunction.ofNumber (.int 1) (.int 1) = .ok f ∧
      let desk : Desk := { Desk.initial with level := Level.notSet }
      let outcome := (fresh desk).call ⟨0, presentClock, some f, some f, []⟩
      outcome.1 = .ok .equivalent ∧ outcome.2.desk.level = Level.warning ∧
        outcome.2.desk.level ≠ desk.level := by
  let f : BooleanFunction := ⟨["x1"], [false, true], .number (.int 1)⟩
  refine ⟨f, rfl, ?_⟩
  intro desk outcome
  have answer : outcome.1 = .ok .equivalent := eq_ok_of_toOption (by decide)
  have level : outcome.2.desk.level = Level.warning := level_call ..
  refine ⟨answer, level, ?_⟩
  rw [level]
  decide

end Bench

end Junctor
