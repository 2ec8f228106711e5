import Mathlib.Data.List.Basic
import Junctor.Log.Elapsed
import Junctor.Proofs.Digits
import Junctor.Proofs.Outcomes

/-!
# Elapsed Times

A log line shows the elapsed time by cutting three characters off the words for a span. These
end in six digits for the microseconds, of which three are left, so that the milliseconds are
shown. But a span of whole seconds is described without microseconds: then the seconds are
cut off, with the colon before them, and only the minutes are shown.

Both texts have a shape of their own, from which the shown number is read back: at the end
stands a set number of digits, and what stands before them is the text of the quotient.

## Main results

* `Span.shortened_natCast`: what is shown of a span.
* `Span.minuteText_inj`, `Span.millisecondText_inj`: the texts of minutes and of milliseconds
  are read back.
* `Span.shortened_eq_iff`: which spans are shown alike.
* `ElapsedClock.line_shows_elapsed`: the log line, and when it shows the milliseconds.
* `ElapsedClock.whole_second_cut_short`: a log line that does not show the seconds.
-/

namespace Junctor

namespace Span

/-! ### Texts of times -/

/-- A number of days in front of a time of the day, if there are any. -/
def dayText (days : Nat) : String :=
  if days = 0 then "" else toString days ++ (if days = 1 then " day, " else " days, ")

/-- The text of a number of minutes: the days, if there are any, the hours of the day without
a zero in front and two digits for the minutes of the hour. -/
def minuteText (minutes : Nat) : String :=
  dayText (minutes / 1440) ++ toString (minutes / 60 % 24) ++ ":" ++
    String.ofList (Number.lastDigits 2 (minutes % 60))

/-- The text of a number of milliseconds: that of the minutes, with two digits for the
seconds of the minute and three for the milliseconds of the second. -/
def millisecondText (milliseconds : Nat) : String :=
  minuteText (milliseconds / 60000) ++ ":" ++
    String.ofList (Number.lastDigits 2 (milliseconds / 1000 % 60)) ++ "." ++
    String.ofList (Number.lastDigits 3 (milliseconds % 1000))

/-! ### What is shown -/

/-- The days of a span that is not negative in words. -/
theorem dayText_natCast (days : Nat) :
    (if (days : Int) = 0 then ""
      else toString (days : Int) ++ (if (days : Int).natAbs = 1 then " day, " else " days, ")) =
      dayText days := by
  simp only [Int.natCast_eq_zero, Int.natAbs_natCast]
  rfl

/-- A span that is not negative in words: the time in minutes, two digits for the seconds and
six for the microseconds, if there are any. -/
theorem describe_natCast (u : Nat) : describe (u : Span) =
    minuteText (u / 60000000) ++ (":" ++ String.ofList (Number.lastDigits 2 (u / 1000000 % 60))) ++
      (if u % 1000000 = 0 then ""
        else "." ++ String.ofList (Number.lastDigits 6 (u % 1000000))) := by
  have days : days (u : Span) = (u / 86400000000 : Nat) := rfl
  have rest : restOfDay (u : Span) = u % 86400000000 := by
    rw [restOfDay, perDay]
    omega
  have number : u / 86400000000 = u / 60000000 / 1440 := by omega
  have hours : u % 86400000000 / 1000000 / 3600 = u / 60000000 / 60 % 24 := by omega
  have minutes : u % 86400000000 / 1000000 / 60 % 60 = u / 60000000 % 60 := by omega
  have seconds : u % 86400000000 / 1000000 % 60 = u / 1000000 % 60 := by omega
  have micros : u % 86400000000 % 1000000 = u % 1000000 := by omega
  rw [describe, days, dayText_natCast, rest, clockText, number, hours, minutes, seconds, micros,
    Number.padded_eq_ofList (by omega) (by omega), Number.padded_eq_ofList (by omega) (by omega),
    Number.padded_eq_ofList (by omega) (by omega), minuteText]
  simp only [String.append_assoc]

/-- What is shown of a span is what stands before the last three characters of its words. -/
theorem shortened_of_describe {span : Span} {shown last : String}
    (words : describe span = shown ++ last) (three : last.toList.length = 3) :
    shortened span = shown := by
  have kept : shown.toList.length = (shown.toList ++ last.toList).length - 3 := by
    rw [List.length_append, three, Nat.add_sub_cancel]
  rw [shortened, words, String.toList_append, List.take_left' kept, String.ofList_toList]

/-- What is shown of a span that is not negative: **the milliseconds**, unless it is a span
of whole seconds, of which only the minutes are shown. -/
theorem shortened_natCast (u : Nat) : shortened (u : Span) =
    if u % 1000000 = 0 then minuteText (u / 60000000) else millisecondText (u / 1000) := by
  split
  · next whole =>
    have words := describe_natCast u
    rw [if_pos whole, String.append_empty] at words
    refine shortened_of_describe words ?_
    simp only [String.toList_append, String.toList_ofList, List.length_append,
      Number.length_lastDigits]
    rfl
  · next fraction =>
    have words := describe_natCast u
    have digits : Number.lastDigits 6 (u % 1000000) =
        Number.lastDigits 3 (u / 1000 % 1000) ++ Number.lastDigits 3 (u % 1000000) := by
      have quotient : u % 1000000 / 10 ^ 3 = u / 1000 % 1000 := by omega
      rw [← quotient, ← Number.lastDigits_add]
    have minutes : u / 60000000 = u / 1000 / 60000 := by omega
    have seconds : u / 1000000 = u / 1000 / 1000 := by omega
    rw [if_neg fraction, digits, minutes, seconds, String.ofList_append, ← String.append_assoc,
      ← String.append_assoc, ← String.append_assoc] at words
    exact shortened_of_describe words (by rw [String.toList_ofList, Number.length_lastDigits])

/-! ### Texts are read back -/

/-- The days, if there are any, are followed by a space. -/
theorem exists_toList_dayText {days : Nat} (nonzero : days ≠ 0) :
    ∃ word, (dayText days).toList = Nat.toDigits 10 days ++ ' ' :: word := by
  have digits : (toString days).toList = Nat.toDigits 10 days := Nat.toList_repr
  rw [dayText, if_neg nonzero, String.toList_append, digits]
  split
  · exact ⟨"day, ".toList, rfl⟩
  · exact ⟨"days, ".toList, rfl⟩

/-- There is no space among digits. -/
theorem space_not_mem_toDigits (n : Nat) : ' ' ∉ Nat.toDigits 10 n := fun found => by
  have digit : ' '.isDigit = true := Nat.isDigit_of_mem_toDigits (by omega) (by omega) found
  exact absurd digit (by decide)

/-- The digits in front of a space are found again. -/
theorem takeWhile_toDigits (n : Nat) (rest : List Char) :
    (Nat.toDigits 10 n ++ ' ' :: rest).takeWhile Char.isDigit = Nat.toDigits 10 n := by
  have digits : ∀ c ∈ Nat.toDigits 10 n, c.isDigit = true :=
    fun _ found => Nat.isDigit_of_mem_toDigits (by omega) (by omega) found
  rw [List.takeWhile_append_of_pos digits, List.takeWhile_cons_of_neg (by decide), List.append_nil]

/-- There is a space before the hours exactly if there are days. -/
theorem space_mem_iff (days hours : Nat) :
    ' ' ∈ (dayText days).toList ++ Nat.toDigits 10 hours ↔ days ≠ 0 := by
  constructor
  · rintro found rfl
    exact space_not_mem_toDigits hours found
  · intro nonzero
    obtain ⟨word, text⟩ := exists_toList_dayText nonzero
    simp [text]

/-- The days and the hours of a text are read back. -/
theorem dayText_append_inj {days days' hours hours' : Nat}
    (same : (dayText days).toList ++ Nat.toDigits 10 hours =
      (dayText days').toList ++ Nat.toDigits 10 hours') : days = days' ∧ hours = hours' := by
  have both : days ≠ 0 ↔ days' ≠ 0 := by
    rw [← space_mem_iff days hours, same, space_mem_iff]
  have sameDays : days = days' := by
    by_cases nonzero : days ≠ 0
    · obtain ⟨word, text⟩ := exists_toList_dayText nonzero
      obtain ⟨word', text'⟩ := exists_toList_dayText (both.mp nonzero)
      have digits := congrArg (List.takeWhile Char.isDigit) same
      rw [text, text', List.append_assoc, List.append_assoc, List.cons_append, List.cons_append,
        takeWhile_toDigits, takeWhile_toDigits] at digits
      exact Number.toDigits_inj.mp digits
    · exact (not_not.mp nonzero).trans (not_not.mp (mt both.mpr nonzero)).symm
  refine ⟨sameDays, ?_⟩
  rw [sameDays, List.append_cancel_left_eq] at same
  exact Number.toDigits_inj.mp same

/-- The text of a number of minutes in pieces. -/
theorem toList_minuteText (minutes : Nat) : (minuteText minutes).toList =
    (dayText (minutes / 1440)).toList ++ Nat.toDigits 10 (minutes / 60 % 24) ++
      ':' :: Number.lastDigits 2 (minutes % 60) := by
  have digits : (toString (minutes / 60 % 24)).toList = Nat.toDigits 10 (minutes / 60 % 24) :=
    Nat.toList_repr
  simp only [minuteText, String.toList_append, digits, String.toList_ofList, List.append_assoc]
  rfl

/-- The text of a number of milliseconds in pieces. -/
theorem toList_millisecondText (milliseconds : Nat) : (millisecondText milliseconds).toList =
    (minuteText (milliseconds / 60000)).toList ++
      ':' :: Number.lastDigits 2 (milliseconds / 1000 % 60) ++
      '.' :: Number.lastDigits 3 (milliseconds % 1000) := by
  simp only [millisecondText, String.toList_append, String.toList_ofList, List.append_assoc]
  rfl

/-- The text of a number of minutes **determines it**. -/
theorem minuteText_inj {m n : Nat} : minuteText m = minuteText n ↔ m = n := by
  refine ⟨fun same => ?_, congrArg _⟩
  have texts := congrArg String.toList same
  rw [toList_minuteText, toList_minuteText] at texts
  have ⟨front, minutes⟩ :=
    (Number.append_cons_lastDigits_inj (by omega) (by omega) (by omega)).mp texts
  have ⟨days, hours⟩ := dayText_append_inj front
  omega

/-- The text of a number of milliseconds **determines it**. -/
theorem millisecondText_inj {m n : Nat} : millisecondText m = millisecondText n ↔ m = n := by
  refine ⟨fun same => ?_, congrArg _⟩
  have texts := congrArg String.toList same
  rw [toList_millisecondText, toList_millisecondText] at texts
  have ⟨whole, milliseconds⟩ :=
    (Number.append_cons_lastDigits_inj (by omega) (by omega) (by omega)).mp texts
  have ⟨front, seconds⟩ :=
    (Number.append_cons_lastDigits_inj (by omega) (by omega) (by omega)).mp whole
  have minutes := minuteText_inj.mp (String.toList_inj.mp front)
  omega

/-- A text of minutes is no text of milliseconds: its third character from the end is a
colon. -/
theorem minuteText_ne_millisecondText (m n : Nat) : minuteText m ≠ millisecondText n := by
  intro same
  have texts := congrArg String.toList same
  rw [toList_minuteText, toList_millisecondText, List.append_cons _ '.'] at texts
  have ⟨_, back⟩ := List.append_inj' texts (by
    rw [List.length_cons, Number.length_lastDigits, Number.length_lastDigits])
  have colon : ':' ∈ Number.lastDigits 3 (n % 1000) := back ▸ List.mem_cons_self
  exact absurd (Number.isDigit_of_mem_lastDigits colon) (by decide)

/-- Spans are shown alike **exactly if** both or neither are whole seconds and they have the
same minutes, or the same milliseconds. -/
theorem shortened_eq_iff (u v : Nat) : shortened (u : Span) = shortened (v : Span) ↔
    (u % 1000000 = 0 ↔ v % 1000000 = 0) ∧
      if u % 1000000 = 0 then u / 60000000 = v / 60000000 else u / 1000 = v / 1000 := by
  rw [shortened_natCast, shortened_natCast]
  by_cases whole : u % 1000000 = 0 <;> by_cases whole' : v % 1000000 = 0
  · rw [if_pos whole, if_pos whole', if_pos whole, minuteText_inj]
    exact (and_iff_right (iff_of_true whole whole')).symm
  · rw [if_pos whole, if_neg whole']
    exact iff_of_false (minuteText_ne_millisecondText _ _) fun both => whole' (both.1.mp whole)
  · rw [if_neg whole, if_pos whole']
    exact iff_of_false (minuteText_ne_millisecondText _ _).symm
      fun both => whole (both.1.mpr whole')
  · rw [if_neg whole, if_neg whole', if_neg whole, millisecondText_inj]
    exact (and_iff_right (iff_of_false whole whole')).symm

end Span

namespace ElapsedClock

/-! ### Log lines -/

/-- A log line shows the **elapsed time** `u`, in microseconds, to the millisecond exactly if
it is not a number of whole seconds; of whole seconds it shows the minutes only. So two times
are shown alike exactly if they have the same milliseconds and neither is a number of whole
seconds, or both are and they have the same minutes. There is no log line if there are too
many days. -/
theorem line_shows_elapsed {clock : ElapsedClock} {created : Number.Scalar} {u : Nat}
    (elapsed : clock.span created = .ok (u : Span)) (text : String) :
    clock.line created text =
        (if u / 86400000000 ≤ maxDays then .ok (Span.shortened u ++ ": " ++ text)
          else .error (.tooManyDays (u / 86400000000 : Nat))) ∧
      (Span.shortened u = Span.millisecondText (u / 1000) ↔ u % 1000000 ≠ 0) ∧
      (Span.shortened u = Span.minuteText (u / 60000000) ↔ u % 1000000 = 0) ∧
      ∀ v : Nat, Span.shortened u = Span.shortened v ↔
        (u % 1000000 = 0 ↔ v % 1000000 = 0) ∧
          if u % 1000000 = 0 then u / 60000000 = v / 60000000 else u / 1000 = v / 1000 := by
  have days : Span.days (u : Span) = (u / 86400000000 : Nat) := rfl
  refine ⟨?_, ?_, ?_, Span.shortened_eq_iff u⟩
  · rw [line, elapsed]
    show (if (Span.days (u : Span)).natAbs ≤ maxDays then _ else _) = _
    rw [days, Int.natAbs_natCast]
    rfl
  · rw [Span.shortened_natCast]
    split
    · next whole =>
        exact iff_of_false (Span.minuteText_ne_millisecondText _ _) (not_not_intro whole)
    · next fraction => exact iff_of_true rfl fraction
  · rw [Span.shortened_natCast]
    split
    · next whole => exact iff_of_true rfl whole
    · next fraction => exact iff_of_false (Span.minuteText_ne_millisecondText _ _).symm fraction

/-- A record one and a half seconds after the reference time, which was set to the start of
the log. Its log line shows the milliseconds. -/
theorem line_shows_elapsed_fraction :
    let clock := (unset 0.25).setReference (.whole 0)
    clock.span (.whole 1500) = .ok ((1500000 : Nat) : Span) ∧
      clock.line (.whole 1500) "x" = .ok (Span.millisecondText 1500 ++ ": " ++ "x") := by
  intro clock
  have elapsed : clock.span (.whole 1500) = .ok ((1500000 : Nat) : Span) :=
    eq_ok_of_toOption (by decide +kernel)
  have ⟨shown, milliseconds, _⟩ := line_shows_elapsed elapsed "x"
  rw [milliseconds.mpr (by decide), if_pos (by decide)] at shown
  exact ⟨elapsed, shown⟩

/-- A log line may **leave the seconds away**. Whenever the program was loaded, a second
after the reference time that was set the line shows `0:00`, and not `0:00:01.000`. -/
theorem whole_second_cut_short :
    (∀ loaded, ((unset loaded).setReference (.whole 0)).line (.whole 1000) "x" = .ok "0:00: x") ∧
      ¬ ∀ (loaded : Float) (time created : Number.Scalar) (u : Nat) (text : String),
        let clock := (unset loaded).setReference time
        clock.span created = .ok (u : Span) → u / 86400000000 ≤ maxDays →
          clock.line created text = .ok (Span.millisecondText (u / 1000) ++ ": " ++ text) := by
  have shown (loaded : Float) :
      ((unset loaded).setReference (.whole 0)).line (.whole 1000) "x" = .ok "0:00: x" :=
    have fixed : ((unset 0).setReference (.whole 0)).line (.whole 1000) "x" = .ok "0:00: x" :=
      eq_ok_of_toOption (by decide +kernel)
    fixed
  refine ⟨shown, fun shows => ?_⟩
  have elapsed : ((unset 0).setReference (.whole 0)).span (.whole 1000) =
      .ok ((1000000 : Nat) : Span) := eq_ok_of_toOption (by decide +kernel)
  have same := (shows 0 (.whole 0) (.whole 1000) 1000000 "x" elapsed (by decide)).symm.trans
    (shown 0)
  exact absurd (Except.ok.inj same) (by decide +kernel)

end ElapsedClock

end Junctor
