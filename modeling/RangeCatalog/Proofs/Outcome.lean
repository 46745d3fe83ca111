import Mathlib.Data.List.Forall2

/-! # Outcomes

When a computation that may fail yields a value: a sequence when each of its steps does, a list of
computations when each of them does.
-/

namespace RangeCatalog

variable {ε ε' α β : Type}

theorem bind_eq_ok_iff {outcome : Except ε α} {next : α → Except ε β} {result : β} :
    outcome >>= next = .ok result ↔ ∃ value, outcome = .ok value ∧ next value = .ok result := by
  cases outcome with
  | error error => simp [bind, Except.bind]
  | ok value => simp [bind, Except.bind]

theorem bind_eq_error_iff {outcome : Except ε α} {next : α → Except ε β} {error : ε} :
    outcome >>= next = .error error ↔
      outcome = .error error ∨ ∃ value, outcome = .ok value ∧ next value = .error error := by
  cases outcome with
  | error cause => simp [bind, Except.bind]
  | ok value => simp [bind, Except.bind]

/-- A computation that is refused on a condition goes on where the condition does not hold. -/
theorem ite_throw_eq_ok_iff {refused : Prop} [Decidable refused] {error : ε} {next : α → Except ε β}
    {rest : Except ε β} {result : β} :
    (if refused then throw error >>= next else rest) = .ok result ↔ ¬refused ∧ rest = .ok result := by
  by_cases condition : refused
  · simp [condition, throw, throwThe, MonadExceptOf.throw, bind, Except.bind]
  · simp [condition]

theorem mapError_eq_ok_iff {outcome : Except ε α} {wrap : ε → ε'} {result : α} :
    outcome.mapError wrap = .ok result ↔ outcome = .ok result := by
  cases outcome with
  | error error => simp [Except.mapError]
  | ok value => simp [Except.mapError]

theorem map_eq_ok_iff {outcome : Except ε α} {change : α → β} {result : β} :
    outcome.map change = .ok result ↔ ∃ value, outcome = .ok value ∧ change value = result := by
  cases outcome with
  | error error => simp [Except.map]
  | ok value => simp [Except.map]

theorem mapError_eq_error_iff {outcome : Except ε α} {wrap : ε → ε'} {error : ε'} :
    outcome.mapError wrap = .error error ↔ ∃ cause, outcome = .error cause ∧ wrap cause = error := by
  cases outcome with
  | error cause => simp [Except.mapError]
  | ok value => simp [Except.mapError]

theorem map_eq_error_iff {outcome : Except ε α} {change : α → β} {error : ε} :
    outcome.map change = .error error ↔ outcome = .error error := by
  cases outcome with
  | error cause => simp [Except.map]
  | ok value => simp [Except.map]

theorem toOption_eq_some_iff {outcome : Except ε α} {result : α} :
    outcome.toOption = some result ↔ outcome = .ok result := by
  cases outcome with
  | error error => simp [Except.toOption]
  | ok value => simp [Except.toOption]

/-- What stands on the right of two related lists is related to something on the left. -/
theorem exists_of_mem_right {related : α → β → Prop} {values : List α} {results : List β}
    (all : List.Forall₂ related values results) {result : β} (member : result ∈ results) :
    ∃ value ∈ values, related value result := by
  induction all with
  | nil => simp at member
  | @cons value other _ _ first _ ih =>
    rcases List.mem_cons.mp member with rfl | later
    · exact ⟨value, List.mem_cons_self, first⟩
    · obtain ⟨found, among, pair⟩ := ih later
      exact ⟨found, List.mem_cons_of_mem _ among, pair⟩

/-- What stands at a place of the left of two related lists is related to what stands there on the right. -/
theorem exists_getElem?_right {related : α → β → Prop} {values : List α} {results : List β}
    (all : List.Forall₂ related values results) {index : Nat} {value : α}
    (here : values[index]? = some value) : ∃ result, results[index]? = some result ∧ related value result := by
  obtain ⟨inside, rfl⟩ := List.getElem?_eq_some_iff.mp here
  have bound : index < results.length := all.length_eq ▸ inside
  exact ⟨results[index], List.getElem?_eq_getElem bound, all.get inside bound⟩

theorem exists_forall₂ {related : α → β → Prop} {values : List α}
    (each : ∀ value ∈ values, ∃ result, related value result) :
    ∃ results, List.Forall₂ related values results := by
  induction values with
  | nil => exact ⟨[], .nil⟩
  | cons value rest ih =>
    obtain ⟨result, first⟩ := each value List.mem_cons_self
    obtain ⟨results, others⟩ := ih fun other member => each other (List.mem_cons_of_mem _ member)
    exact ⟨result :: results, .cons first others⟩

theorem mapM_eq_ok_iff {step : α → Except ε β} {values : List α} {results : List β} :
    values.mapM step = .ok results ↔
      List.Forall₂ (fun value result => step value = .ok result) values results := by
  induction values generalizing results with
  | nil => simp [pure, Except.pure, eq_comm]
  | cons value rest ih =>
    rw [List.mapM_cons, List.forall₂_cons_left_iff]
    simp only [bind_eq_ok_iff, ih, pure, Except.pure, Except.ok.injEq]
    constructor
    · rintro ⟨result, first, others, tail, rfl⟩
      exact ⟨result, others, first, tail, rfl⟩
    · rintro ⟨result, others, first, tail, rfl⟩
      exact ⟨result, first, others, tail, rfl⟩

/-- What a list of computations yields was computed from something on the list. -/
theorem exists_of_mem_mapM {step : α → Option β} {values : List α} {results : List β} {result : β}
    (computed : values.mapM step = some results) (member : result ∈ results) :
    ∃ value ∈ values, step value = some result := by
  induction values generalizing results with
  | nil =>
    rw [List.mapM_nil] at computed
    obtain rfl := Option.some.inj computed
    exact absurd member List.not_mem_nil
  | cons value rest ih =>
    rw [List.mapM_cons] at computed
    obtain ⟨first, here, others⟩ := Option.bind_eq_some_iff.mp computed
    obtain ⟨later, tail, whole⟩ := Option.bind_eq_some_iff.mp others
    obtain rfl := Option.some.inj whole
    rcases List.mem_cons.mp member with rfl | among
    · exact ⟨value, List.mem_cons_self, here⟩
    · obtain ⟨found, listed, yields⟩ := ih tail among
      exact ⟨found, List.mem_cons_of_mem _ listed, yields⟩

/-- A list of computations fails as the first of them does that fails. -/
theorem mapM_of_first_error {step : α → Except ε β} {values : List α} {index : Nat} {value : α} {error : ε}
    (here : values[index]? = some value)
    (before : ∀ earlier ∈ values.take index, ∃ result, step earlier = .ok result)
    (failed : step value = .error error) : values.mapM step = .error error := by
  induction values generalizing index with
  | nil => simp at here
  | cons first rest ih =>
    rw [List.mapM_cons, bind_eq_error_iff]
    cases index with
    | zero =>
      obtain rfl : first = value := Option.some.inj here
      exact .inl failed
    | succ index =>
      obtain ⟨result, yielded⟩ := before first (by simp)
      have others : ∀ earlier ∈ rest.take index, ∃ result, step earlier = .ok result :=
        fun earlier member => before earlier (List.mem_cons_of_mem _ member)
      exact .inr ⟨result, yielded, bind_eq_error_iff.mpr (.inl (ih here others))⟩

end RangeCatalog
