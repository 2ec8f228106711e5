import Mathlib.Algebra.Ring.Int.Defs
import Junctor.Trace

/-!
# Nested Traces

A call writes its lines at the value that the counter has when it begins, and the counter is
raised and lowered around its body, however the body ends. So the calls inside find the
counter raised by the step of each call around them, and the lines of a call stand around
those of the calls inside it, as brackets do. A call that ends in an error leaves its bracket
open and writes nothing more.

To tell the lines of a trace apart, even those of equal calls, each is *marked* with the
place of its call: the numbers of the calls on the way there, starting from the outermost
one. Forgetting the marks gives the text. What stands between two lines of a call are then
the lines whose places lie below its own.

## Main results

* `Call.write_eq_textOf_lines`: forgetting the marks gives exactly the text.
* `Call.exists_place_of_mem_lines`: every line belongs to a call inside, at the place that it
  is marked with.
* `Call.exists_lines_of_reach?`: the lines of a call inside stand together, and at which
  indentation.
* `Call.trace_well_nested`: the lines of each call in a trace, and the counter afterwards.
-/

namespace Junctor.Call

/-- A **line** of a trace, marked with the place of its call. The line for a return counts
with the empty one after it. -/
structure Line where
  /-- The numbers of the calls on the way to the call. -/
  place : List Nat
  /-- What is written. -/
  text : String
  deriving DecidableEq

/-- The text of some lines, written one after the other without their marks. -/
def textOf (lines : List Line) : String := (lines.map Line.text).foldr (· ++ ·) ""

/-- Texts are written one after the other if their lines are. -/
theorem textOf_append (first second : List Line) :
    textOf (first ++ second) = textOf first ++ textOf second := by
  induction first with
  | nil => exact String.empty_append.symm
  | cons line lines ih =>
      show line.text ++ textOf (lines ++ second) = line.text ++ textOf lines ++ textOf second
      rw [ih, String.append_assoc]

/-! ### Marked lines -/

/-- What a call at a place writes when it ends: one line if it returns and this is shown, and
nothing if it ends in an error. -/
def endLines (place : List Nat) (tracer : Tracer) (counter : Int) (function : String) :
    Option String → List Line
  | some value => if tracer.showReturn then [⟨place, returnLine counter function value⟩] else []
  | none => []

mutual

/-- The marked lines of a call at a place, and the counter afterwards. -/
def lines (place : List Nat) (counter : Int) : Call → List Line × Int
  | mk tracer function arguments inner returned =>
    let (body, reached) := linesOfAll place 0 (counter + tracer.indentStep) inner
    (⟨place, beginLine counter function arguments⟩ :: body ++
        endLines place tracer counter function returned, reached - tracer.indentStep)

/-- The marked lines of calls one after the other inside a call at a place, where the first
of them has a certain number, and the counter afterwards. -/
def linesOfAll (place : List Nat) (number : Nat) (counter : Int) : List Call → List Line × Int
  | [] => ([], counter)
  | call :: calls =>
    let (first, reached) := lines (place ++ [number]) counter call
    let (rest, reached) := linesOfAll place (number + 1) reached calls
    (first ++ rest, reached)

end

/-- The lines at an end make the text at the end. -/
theorem textOf_endLines (place : List Nat) (tracer : Tracer) (counter : Int) (function : String)
    (returned : Option String) :
    textOf (endLines place tracer counter function returned) =
      endText tracer counter function returned := by
  cases returned with
  | none => rfl
  | some value =>
      cases shown : tracer.showReturn with
      | false => simp [endLines, endText, shown, textOf]
      | true => simp [endLines, endText, shown, textOf]

/-- The lines at an end are marked with the place of the call. -/
theorem place_of_mem_endLines {place : List Nat} {tracer : Tracer} {counter : Int}
    {function : String} {returned : Option String} {line : Line}
    (written : line ∈ endLines place tracer counter function returned) : line.place = place := by
  unfold endLines at written
  split at written
  · split at written
    · rw [List.mem_singleton.mp written]
    · cases written
  · cases written

mutual

/-- Forgetting the marks gives exactly the text of a call, so that what is known of the
marked lines is known of the text. -/
theorem write_eq_textOf_lines (place : List Nat) (counter : Int) : ∀ call : Call,
    write counter call = (textOf (call.lines place counter).1, (call.lines place counter).2)
  | mk tracer function arguments inner returned => by
    rw [write, lines]
    simp only [writeAll_eq_textOf_linesOfAll place 0 (counter + tracer.indentStep) inner,
      textOf_append, textOf_endLines]
    rfl

/-- Forgetting the marks gives exactly the text of several calls. -/
theorem writeAll_eq_textOf_linesOfAll (place : List Nat) (number : Nat) (counter : Int) :
    ∀ calls : List Call, writeAll counter calls =
      (textOf (linesOfAll place number counter calls).1, (linesOfAll place number counter calls).2)
  | [] => rfl
  | call :: calls => by
    rw [writeAll, linesOfAll]
    simp only [write_eq_textOf_lines (place ++ [number]) counter call,
      writeAll_eq_textOf_linesOfAll place (number + 1) _ calls, textOf_append]

end

/-- After its lines a call leaves the counter as it was. -/
theorem snd_lines (place : List Nat) (counter : Int) (call : Call) :
    (call.lines place counter).2 = counter := by
  have forgotten := congrArg Prod.snd (write_eq_textOf_lines place counter call)
  exact forgotten.symm.trans (write_counter counter call)

/-- The lines of a call stand around those of the calls inside. -/
theorem fst_lines (place : List Nat) (counter : Int) (tracer : Tracer) (function arguments : String)
    (inner : List Call) (returned : Option String) :
    ((mk tracer function arguments inner returned).lines place counter).1 =
      ⟨place, beginLine counter function arguments⟩ ::
        (linesOfAll place 0 (counter + tracer.indentStep) inner).1 ++
          endLines place tracer counter function returned := by
  rw [lines]

/-- Calls one after the other find the same counter. -/
theorem fst_linesOfAll_cons (place : List Nat) (number : Nat) (counter : Int) (call : Call)
    (calls : List Call) :
    (linesOfAll place number counter (call :: calls)).1 =
      (call.lines (place ++ [number]) counter).1 ++
        (linesOfAll place (number + 1) counter calls).1 := by
  rw [linesOfAll]
  simp only [snd_lines]

/-! ### Places -/

/-- The call at a place inside another one, with the tracers of the calls around it, the
outermost first. -/
def reach? : Call → List Nat → Option (List Tracer × Call)
  | call, [] => some ([], call)
  | mk tracer _ _ inner _, number :: place => do
    let next ← inner[number]?
    let (around, call) ← next.reach? place
    return (tracer :: around, call)

/-- A place below a call is a place below one of the calls inside. -/
theorem reach?_cons_eq_some_iff {tracer : Tracer} {function arguments : String} {inner : List Call}
    {returned : Option String} {number : Nat} {place : List Nat} {around : List Tracer}
    {call : Call} :
    (mk tracer function arguments inner returned).reach? (number :: place) = some (around, call) ↔
      ∃ next rest, inner[number]? = some next ∧ next.reach? place = some (rest, call) ∧
        around = tracer :: rest := by
  simp only [reach?, bind, Option.bind_eq_some_iff, Prod.exists, pure, Option.some.injEq,
    Prod.mk.injEq]
  constructor
  · rintro ⟨next, here, rest, _, below, rfl, rfl⟩
    exact ⟨next, rest, here, below, rfl⟩
  · rintro ⟨next, rest, here, below, rfl⟩
    exact ⟨next, here, rest, call, below, rfl, rfl⟩

mutual

/-- Every line of a call **belongs to a call inside it**, at the place that the line is
marked with. -/
theorem exists_place_of_mem_lines {start : List Nat} {counter : Int} :
    ∀ {call : Call} {line : Line},
    line ∈ (call.lines start counter).1 →
      ∃ place, line.place = start ++ place ∧ (call.reach? place).isSome
  | mk tracer function arguments inner returned, line, written => by
    rw [fst_lines, List.cons_append, List.mem_cons, List.mem_append] at written
    rcases written with rfl | inside | atEnd
    · exact ⟨[], (List.append_nil start).symm, rfl⟩
    · obtain ⟨i, place, next, marked, found, below⟩ := exists_place_of_mem_linesOfAll inside
      obtain ⟨⟨around, call⟩, reached⟩ := Option.isSome_iff_exists.mp below
      refine ⟨i :: place, by rw [marked, Nat.zero_add], ?_⟩
      rw [reach?_cons_eq_some_iff.mpr ⟨next, around, found, reached, rfl⟩]
      rfl
    · exact ⟨[], by rw [place_of_mem_endLines atEnd, List.append_nil], rfl⟩

/-- Every line of several calls belongs to a call inside one of them, at the place that the
line is marked with. -/
theorem exists_place_of_mem_linesOfAll {start : List Nat} {number : Nat} {counter : Int} :
    ∀ {calls : List Call} {line : Line}, line ∈ (linesOfAll start number counter calls).1 →
      ∃ i place next, line.place = start ++ (number + i) :: place ∧ calls[i]? = some next ∧
        (next.reach? place).isSome
  | call :: calls, line, written => by
    rw [fst_linesOfAll_cons, List.mem_append] at written
    rcases written with first | later
    · obtain ⟨place, marked, below⟩ := exists_place_of_mem_lines first
      exact ⟨0, place, call, by rw [marked, List.append_assoc]; rfl, rfl, below⟩
    · obtain ⟨i, place, next, marked, found, below⟩ := exists_place_of_mem_linesOfAll later
      exact ⟨i + 1, place, next, by rw [marked, Nat.add_right_comm]; rfl, found, below⟩

end

/-- The line of a call is marked at its place or below. -/
theorem place_of_mem_lines {start : List Nat} {counter : Int} {call : Call} {line : Line}
    (written : line ∈ (call.lines start counter).1) : start <+: line.place := by
  obtain ⟨place, marked, -⟩ := exists_place_of_mem_lines written
  exact ⟨place, marked.symm⟩

/-- The line of one of several calls is marked at the place of one of them or below. -/
theorem place_of_mem_linesOfAll {start : List Nat} {number : Nat} {counter : Int}
    {calls : List Call} {line : Line} (written : line ∈ (linesOfAll start number counter calls).1) :
    ∃ i, start ++ [number + i] <+: line.place := by
  obtain ⟨i, place, -, marked, -, -⟩ := exists_place_of_mem_linesOfAll written
  exact ⟨i, place, by rw [marked, List.append_assoc]; rfl⟩

/-! ### Brackets -/

/-- The lines of one of several calls stand together, and the others belong elsewhere. -/
theorem exists_linesOfAll_eq (start : List Nat) (number : Nat) (counter : Int) {calls : List Call}
    {i : Nat} {call : Call} (found : calls[i]? = some call) :
    ∃ before after, (linesOfAll start number counter calls).1 =
        before ++ (call.lines (start ++ [number + i]) counter).1 ++ after ∧
      ∀ line ∈ before ++ after, ∃ other ≠ number + i, start ++ [other] <+: line.place := by
  induction calls generalizing number i with
  | nil => cases found
  | cons first calls ih =>
      rw [fst_linesOfAll_cons]
      cases i with
      | zero =>
          obtain rfl : first = call := Option.some.inj found
          refine ⟨[], _, rfl, fun line written => ?_⟩
          obtain ⟨j, below⟩ := place_of_mem_linesOfAll written
          exact ⟨number + 1 + j, by omega, below⟩
      | succ i =>
          obtain ⟨before, after, split, elsewhere⟩ := ih (number + 1) found
          have up : number + 1 + i = number + (i + 1) := by omega
          rw [up] at split elsewhere
          refine ⟨(first.lines (start ++ [number]) counter).1 ++ before, after, ?_, ?_⟩
          · rw [split]
            simp only [List.append_assoc]
          · intro line written
            rw [List.append_assoc, List.mem_append] at written
            rcases written with own | others
            · exact ⟨number, by omega, place_of_mem_lines own⟩
            · exact elsewhere line others

/-- A place is not below another one beside it. -/
theorem not_prefix_of_beside {start place below : List Nat} {number other : Nat}
    (beside : other ≠ number) (at_other : start ++ [other] <+: below) :
    ¬ start ++ number :: place <+: below := by
  rintro ⟨rest, eq⟩
  obtain ⟨rest', rfl⟩ := at_other
  rw [List.append_assoc, List.append_assoc, List.append_cancel_left_eq] at eq
  exact beside (List.cons.inj eq).1.symm

/-- The value of the counter inside calls with some tracers. -/
def counterInside (counter : Int) (around : List Tracer) : Int :=
  counter + (around.map Tracer.indentStep).sum

/-- The counter inside a call and those inside that one goes up by the step of the call
first. -/
theorem counterInside_cons (counter : Int) (tracer : Tracer) (around : List Tracer) :
    counterInside counter (tracer :: around) =
      counterInside (counter + tracer.indentStep) around := by
  rw [counterInside, counterInside, List.map_cons, List.sum_cons, Int.add_assoc]

/-- The lines of a call inside another one **stand together**, indented by the steps of all
calls around it, and no other line belongs to it or to a call inside it. -/
theorem exists_lines_of_reach? {call inside : Call} {place : List Nat} {around : List Tracer}
    (reached : call.reach? place = some (around, inside)) (start : List Nat) (counter : Int) :
    ∃ before after, (call.lines start counter).1 =
        before ++ (inside.lines (start ++ place) (counterInside counter around)).1 ++ after ∧
      ∀ line ∈ before ++ after, ¬ start ++ place <+: line.place := by
  induction place generalizing call around start counter with
  | nil =>
      obtain ⟨rfl, rfl⟩ : [] = around ∧ call = inside := by
        cases call
        exact Prod.mk.inj (Option.some.inj reached)
      exact ⟨[], [], by simp [counterInside], nofun⟩
  | cons number place ih =>
      obtain ⟨tracer, function, arguments, inner, returned⟩ := call
      obtain ⟨next, rest, found, below, rfl⟩ := reach?_cons_eq_some_iff.mp reached
      obtain ⟨before, after, split, elsewhere⟩ :=
        exists_linesOfAll_eq start 0 (counter + tracer.indentStep) found
      obtain ⟨earlier, later, nested, outside⟩ :=
        ih below (start ++ [number]) (counter + tracer.indentStep)
      have down : start ++ [number] ++ place = start ++ number :: place :=
        (List.append_cons ..).symm
      rw [down] at nested outside
      rw [Nat.zero_add] at split elsewhere
      rw [counterInside_cons]
      refine ⟨⟨start, beginLine counter function arguments⟩ :: before ++ earlier,
        later ++ after ++ endLines start tracer counter function returned, ?_, ?_⟩
      · rw [fst_lines, split, nested]
        simp only [List.append_assoc, List.cons_append]
      · have above : ¬ start ++ number :: place <+: start := fun at_start => by
          have length := at_start.length_le
          rw [List.length_append, List.length_cons] at length
          omega
        have beside : ∀ line ∈ before ++ after, ¬ start ++ number :: place <+: line.place :=
          fun line written => by
            obtain ⟨other, different, at_other⟩ := elsewhere line written
            exact not_prefix_of_beside different at_other
        intro line written
        simp only [List.mem_append, List.mem_cons] at written beside outside
        rcases written with ((rfl | written) | written) | (written | written) | written
        · exact above
        · exact beside line (.inl written)
        · exact outside line (.inl written)
        · exact outside line (.inr written)
        · exact beside line (.inr written)
        · rw [place_of_mem_endLines written]
          exact above

/-- A trace is **well nested**. After a call the counter is what it was before. The lines of
the trace belong to the calls inside, and those of each call are: the line for its begin,
indented by the value of the counter at the start and the steps of all calls around it; then
all lines of the calls inside it; then the line for its return with the same indentation, if
it returns and this is shown. No other line belongs to it or to a call inside it, and after
an error there is no line for a return. -/
theorem trace_well_nested (counter : Int) (call : Call) :
    (call.write counter).2 = counter ∧
      (call.write counter).1 = textOf (call.lines [] counter).1 ∧
      (∀ line ∈ (call.lines [] counter).1, (call.reach? line.place).isSome) ∧
      ∀ place around tracer function arguments inner returned,
        call.reach? place = some (around, mk tracer function arguments inner returned) →
          ∃ before inside after, (call.lines [] counter).1 =
              before ++
                ⟨place, beginLine (counterInside counter around) function arguments⟩ :: inside ++
                endLines place tracer (counterInside counter around) function returned ++ after ∧
            (∀ line ∈ inside, ∃ number, place ++ [number] <+: line.place) ∧
            ∀ line ∈ before ++ after, ¬ place <+: line.place := by
  refine ⟨write_counter counter call,
    congrArg Prod.fst (write_eq_textOf_lines [] counter call), ?_, ?_⟩
  · intro line written
    obtain ⟨place, marked, reached⟩ := exists_place_of_mem_lines written
    rw [marked]
    exact reached
  · intro place around tracer function arguments inner returned reached
    obtain ⟨before, after, split, elsewhere⟩ := exists_lines_of_reach? reached [] counter
    rw [List.nil_append, fst_lines] at split
    let body := (linesOfAll place 0 (counterInside counter around + tracer.indentStep) inner).1
    have below : ∀ line ∈ body, ∃ number, place ++ [number] <+: line.place := fun line written => by
      obtain ⟨i, at_inner⟩ := place_of_mem_linesOfAll written
      exact ⟨0 + i, at_inner⟩
    refine ⟨before, body, after, ?_, below, elsewhere⟩
    rw [split]
    simp only [body, List.append_assoc, List.cons_append]

/-- A call that **fails inside** one that catches the error: after the lines of the call
inside it, which returns, it writes nothing more. -/
theorem trace_well_nested_caught :
    let leaf : Call := mk { indentStep := 1 } "leaf" "" [] (some "0")
    let failing : Call := mk { indentStep := 3 } "failing" "" [leaf] none
    let call : Call := mk {} "catching" "" [failing, leaf] (some "1")
    call.reach? [0] = some ([{}], failing) ∧
      (call.write 0).1 =
        "--> catching()
  --> failing()
     --> leaf()
     <-- leaf == 0

" ++
          "  --> leaf()
  <-- leaf == 0

<-- catching == 1

" ∧
      ∃ before inside after, (call.lines [] 0).1 =
          before ++ ⟨[0], beginLine 2 "failing" ""⟩ :: inside ++ [] ++ after ∧
        (∀ line ∈ inside, ∃ number, [0] ++ [number] <+: line.place) ∧
        ∀ line ∈ before ++ after, ¬ [0] <+: line.place := by
  intro leaf failing call
  have reached : call.reach? [0] = some ([{}], failing) := rfl
  exact ⟨reached, by decide +kernel,
    (call.trace_well_nested 0).2.2.2 [0] [{}] _ "failing" "" [leaf] none reached⟩

end Junctor.Call
