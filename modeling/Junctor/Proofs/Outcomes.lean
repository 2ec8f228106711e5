/-!
# Outcomes

Computations that may fail are put together by sequencing and by going through lists. This
module takes their outcomes apart again: a sequence succeeds exactly if its parts do, and a
list of computations exactly if each of them does.

## Main results

* `exists_eq_error_iff`: a computation fails exactly if it does not succeed.
* `bind_eq_ok_iff`, `bind_eq_error_iff`, `mapError_eq_ok_iff`: when a sequence succeeds.
* `exists_mapM_eq_ok_iff`, `map_of_mapM`, `exists_mem_of_mapM`, `mapM_eq_ok_map`: when going
  through a list succeeds, and what it gives.
* `foldlM_simulates`: two machines that agree on every token agree on every token list.
* `exists_of_foldlM_eq_error`: a machine that fails does so at one of its tokens.
-/

namespace Junctor

variable {α β τ ε δ : Type}

/-- A computation fails **exactly if it does not succeed**. -/
theorem exists_eq_error_iff {x : Except ε α} : (∃ e, x = .error e) ↔ ¬ ∃ a, x = .ok a := by
  cases x <;> simp

/-- A success is what is left of it when errors are not told apart. -/
theorem eq_ok_of_toOption {x : Except ε α} {a : α} (h : x.toOption = some a) : x = .ok a := by
  cases x with
  | error e => cases h
  | ok b => exact congrArg Except.ok (Option.some.inj h)

/-- A sequence succeeds **exactly if its parts do**, the second one on the result of the
first. -/
theorem bind_eq_ok_iff {x : Except ε α} {f : α → Except ε β} {b : β} :
    x >>= f = .ok b ↔ ∃ a, x = .ok a ∧ f a = .ok b := by
  cases x with
  | error e =>
      constructor
      · intro h; cases h
      · rintro ⟨a, h, -⟩; cases h
  | ok a =>
      constructor
      · intro h; exact ⟨a, rfl, h⟩
      · rintro ⟨a', h, hb⟩; cases h; exact hb

/-- A sequence fails with the error of the first of its parts that does. -/
theorem bind_eq_error_iff {x : Except ε α} {f : α → Except ε β} {e : ε} :
    x >>= f = .error e ↔ x = .error e ∨ ∃ a, x = .ok a ∧ f a = .error e := by
  cases x with
  | error e' =>
      constructor
      · intro h
        cases h
        exact .inl rfl
      · rintro (h | ⟨a, h, -⟩)
        · cases h; rfl
        · cases h
  | ok a =>
      constructor
      · intro h; exact .inr ⟨a, rfl, h⟩
      · rintro (h | ⟨a', h, failed⟩)
        · cases h
        · cases h; exact failed

/-- Restating the error **does not touch** a success. -/
theorem mapError_eq_ok_iff {x : Except ε α} {f : ε → δ} {a : α} :
    x.mapError f = .ok a ↔ x = .ok a := by
  cases x with
  | error e => constructor <;> (intro h; cases h)
  | ok b => constructor <;> (intro h; injection h with same; exact congrArg Except.ok same)

/-- Restating the error keeps a failure a failure. -/
theorem mapError_eq_error_iff {x : Except ε α} {f : ε → δ} {d : δ} :
    x.mapError f = .error d ↔ ∃ e, x = .error e ∧ f e = d := by
  cases x with
  | error e =>
      constructor
      · intro h
        exact ⟨e, rfl, by injection h⟩
      · rintro ⟨_, h, stated⟩
        cases h
        exact congrArg Except.error stated
  | ok b => exact ⟨fun h => (by cases h), fun ⟨_, h, _⟩ => (by cases h)⟩

/-- A list of computations succeeds exactly if each of them does, in whatever order they
come. -/
theorem exists_mapM_eq_ok_iff {f : τ → Except ε α} {list : List τ} :
    (∃ results, list.mapM f = .ok results) ↔ ∀ t ∈ list, ∃ a, f t = .ok a := by
  induction list with
  | nil =>
      constructor
      · intro _ t mem
        cases mem
      · intro _
        exact ⟨[], rfl⟩
  | cons t list ih =>
      constructor
      · rintro ⟨results, h⟩
        rw [List.mapM_cons] at h
        obtain ⟨a, first, h⟩ := bind_eq_ok_iff.mp h
        obtain ⟨rest, others, -⟩ := bind_eq_ok_iff.mp h
        rintro u mem
        rcases List.mem_cons.mp mem with rfl | mem
        · exact ⟨a, first⟩
        · exact ih.mp ⟨rest, others⟩ u mem
      · intro each
        obtain ⟨a, first⟩ := each t (by simp)
        obtain ⟨rest, others⟩ := ih.mpr fun u mem => each u (by simp [mem])
        refine ⟨a :: rest, ?_⟩
        rw [List.mapM_cons, first, others]
        rfl

/-- The results of a list of computations **tell what they came from**, if each of them
does. -/
theorem map_of_mapM {f : τ → Except ε α} {g : α → β} {h : τ → β} {list : List τ}
    {results : List α} (done : list.mapM f = .ok results)
    (back : ∀ t ∈ list, ∀ a, f t = .ok a → g a = h t) : results.map g = list.map h := by
  induction list generalizing results with
  | nil => cases done; rfl
  | cons t list ih =>
      rw [List.mapM_cons] at done
      obtain ⟨a, first, done⟩ := bind_eq_ok_iff.mp done
      obtain ⟨rest, others, last⟩ := bind_eq_ok_iff.mp done
      cases last
      rw [List.map_cons, List.map_cons, back t (by simp) a first,
        ih others fun u mem => back u (by simp [mem])]

/-- Each computation of a list has its result **among the results**. -/
theorem exists_mem_of_mapM {f : τ → Except ε α} {list : List τ} {results : List α}
    (done : list.mapM f = .ok results) {t : τ} (mem : t ∈ list) : ∃ a ∈ results, f t = .ok a := by
  induction list generalizing results with
  | nil => cases mem
  | cons u list ih =>
      rw [List.mapM_cons] at done
      obtain ⟨a, first, done⟩ := bind_eq_ok_iff.mp done
      obtain ⟨rest, others, last⟩ := bind_eq_ok_iff.mp done
      cases last
      rcases List.mem_cons.mp mem with rfl | mem
      · exact ⟨a, by simp, first⟩
      · obtain ⟨b, later, found⟩ := ih others mem
        exact ⟨b, by simp [later], found⟩

/-- A list of computations **gives what each of them gives**. -/
theorem mapM_eq_ok_map {f : τ → Except ε α} {g : τ → α} {list : List τ}
    (each : ∀ t ∈ list, f t = .ok (g t)) : list.mapM f = .ok (list.map g) := by
  obtain ⟨results, done⟩ := exists_mapM_eq_ok_iff.mpr fun t mem => ⟨g t, each t mem⟩
  have same : results.map id = list.map g := map_of_mapM done fun t mem a found => by
    rw [each t mem] at found
    exact (Except.ok.inj found).symm
  rw [done, ← same, List.map_id]

/-- Two machines that agree **on every token** agree on every token list: `φ` takes the
states of the one to those of the other, and `ψ` the errors. -/
theorem foldlM_simulates {step : α → τ → Except ε α} {other : β → τ → Except δ β}
    (φ : α → β) (ψ : ε → δ) {tokens : List τ}
    (agree : ∀ s, ∀ t ∈ tokens, other (φ s) t = ((step s t).map φ).mapError ψ) (s : α) :
    tokens.foldlM other (φ s) = ((tokens.foldlM step s).map φ).mapError ψ := by
  induction tokens generalizing s with
  | nil => rfl
  | cons t tokens ih =>
      rw [List.foldlM_cons, List.foldlM_cons, agree s t (by simp)]
      cases step s t with
      | error e => rfl
      | ok next => exact ih (fun s t mem => agree s t (by simp [mem])) next

/-- A machine that fails takes the tokens before some token without an error, and fails at
this one. -/
theorem exists_of_foldlM_eq_error {step : α → τ → Except ε α} {tokens : List τ} {s : α} {e : ε}
    (h : tokens.foldlM step s = .error e) :
    ∃ before t after last, tokens = before ++ t :: after ∧ before.foldlM step s = .ok last ∧
      step last t = .error e := by
  induction tokens generalizing s with
  | nil => cases h
  | cons u tokens ih =>
      rw [List.foldlM_cons] at h
      cases first : step s u with
      | error e' =>
          rw [first] at h
          cases h
          exact ⟨[], u, tokens, s, rfl, rfl, first⟩
      | ok next =>
          rw [first] at h
          obtain ⟨before, t, after, last, rfl, taken, failed⟩ := ih h
          refine ⟨u :: before, t, after, last, rfl, ?_, failed⟩
          rw [List.foldlM_cons, first]
          exact taken

end Junctor
