/-! # Steps that can fail

How results of fallible steps combine. A failed step is the result of all steps
after it, and a successful one hands its value on.
-/

namespace PrefAccessors

variable {ε α β : Type}

@[simp]
theorem ok_bind (value : α) (next : α → Except ε β) : (Except.ok value >>= next) = next value := rfl

@[simp]
theorem error_bind (error : ε) (next : α → Except ε β) :
    (Except.error error >>= next) = .error error := rfl

@[simp]
theorem pure_eq_ok (value : α) : (pure value : Except ε α) = .ok value := rfl

theorem map_eq_bind (change : α → β) (result : Except ε α) :
    result.map change = result >>= fun value => .ok (change value) := by
  cases result <;> rfl

theorem bind_eq_ok_iff {result : Except ε α} {next : α → Except ε β} {value : β} :
    result >>= next = .ok value ↔ ∃ middle, result = .ok middle ∧ next middle = .ok value := by
  cases result with
  | error error => simp
  | ok middle => simp

theorem bind_eq_error_iff {result : Except ε α} {next : α → Except ε β} {error : ε} :
    result >>= next = .error error ↔
      result = .error error ∨ ∃ middle, result = .ok middle ∧ next middle = .error error := by
  cases result with
  | error error => simp
  | ok middle => simp

theorem map_eq_ok_iff {result : Except ε α} {change : α → β} {value : β} :
    result.map change = .ok value ↔ ∃ before, result = .ok before ∧ change before = value := by
  cases result with
  | error error => simp [Except.map]
  | ok before => simp [Except.map]

theorem map_eq_error_iff {result : Except ε α} {change : α → β} {error : ε} :
    result.map change = .error error ↔ result = .error error := by
  cases result with
  | error error => simp [Except.map]
  | ok before => simp [Except.map]

theorem isOk_iff {result : Except ε α} : result.isOk ↔ ∃ value, result = .ok value := by
  cases result with
  | error error => simp [Except.isOk, Except.toBool]
  | ok value => simp [Except.isOk, Except.toBool]

theorem mapM_eq_ok_self {step : α → Except ε α} {values : List α}
    (hstep : ∀ value ∈ values, step value = .ok value) : values.mapM step = .ok values := by
  induction values with
  | nil => rfl
  | cons value rest ih =>
    rw [List.forall_mem_cons] at hstep
    rw [List.mapM_cons, hstep.1, ih hstep.2]
    rfl

theorem mapM_cons_eq_ok_iff {step : α → Except ε β} {value : α} {rest : List α}
    {results : List β} :
    (value :: rest).mapM step = .ok results ↔
      ∃ result later, step value = .ok result ∧ rest.mapM step = .ok later ∧
        result :: later = results := by
  simp [List.mapM_cons, bind_eq_ok_iff]

/-- All steps succeed exactly if each of them does. -/
theorem exists_mapM_eq_ok_iff {step : α → Except ε β} {values : List α} :
    (∃ results, values.mapM step = .ok results) ↔
      ∀ value ∈ values, ∃ result, step value = .ok result := by
  induction values with
  | nil => simp
  | cons value rest ih =>
    rw [List.forall_mem_cons, ← ih]
    simp only [mapM_cons_eq_ok_iff]
    constructor
    · rintro ⟨_, result, later, hresult, hlater, _⟩
      exact ⟨⟨result, hresult⟩, later, hlater⟩
    · rintro ⟨⟨result, hresult⟩, later, hlater⟩
      exact ⟨_, result, later, hresult, hlater, rfl⟩

theorem mem_of_mapM_eq_ok {step : α → Except ε β} {values : List α} {results : List β}
    (hresults : values.mapM step = .ok results) {result : β} :
    result ∈ results ↔ ∃ value ∈ values, step value = .ok result := by
  induction values generalizing results with
  | nil =>
    obtain rfl := Except.ok.inj hresults
    simp
  | cons value rest ih =>
    obtain ⟨first, later, hfirst, hlater, rfl⟩ := mapM_cons_eq_ok_iff.mp hresults
    rw [List.mem_cons, ih hlater]
    simp [hfirst, eq_comm]

/-- A result that is of no use to what is done with all of them can be left out, together with its
step. -/
theorem mapM_insert_bind {γ : Type} {step : α → Except ε β} {finish : List β → Except ε γ}
    {before after : List α} {value : α} {result : β} (hvalue : step value = .ok result)
    (hfinish : ∀ first last, before.mapM step = .ok first → after.mapM step = .ok last →
      finish (first ++ result :: last) = finish (first ++ last)) :
    (before ++ value :: after).mapM step >>= finish = (before ++ after).mapM step >>= finish := by
  rw [List.mapM_append, List.mapM_append, List.mapM_cons, hvalue]
  cases hfirst : before.mapM step with
  | error error => rfl
  | ok first =>
    cases hlast : after.mapM step with
    | error error => rfl
    | ok last => exact hfinish first last hfirst hlast

end PrefAccessors
