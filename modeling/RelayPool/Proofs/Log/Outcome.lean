import RelayPool.Log.Reported

/-!
# Outcomes of computations that may fail

How a computation ends, with records or without, from the ends of its parts: it
has a result when all parts have one, and its fault is the fault of the first
part that fails.
-/

namespace RelayPool.Log

section Checked

variable {ε ε' α β : Type}

@[simp]
theorem bind_eq_ok_iff {first : Except ε α} {next : α → Except ε β} {result : β} :
    (first >>= next) = .ok result ↔
      ∃ value, first = .ok value ∧ next value = .ok result := by
  cases first <;> simp [bind, Except.bind]

@[simp]
theorem bind_eq_error_iff {first : Except ε α} {next : α → Except ε β} {fault : ε} :
    (first >>= next) = .error fault ↔
      first = .error fault ∨ ∃ value, first = .ok value ∧ next value = .error fault := by
  cases first <;> simp [bind, Except.bind]

@[simp]
theorem pure_eq_ok_iff {value result : α} :
    (pure value : Except ε α) = .ok result ↔ value = result := by
  simp [pure, Except.pure]

@[simp]
theorem throw_ne_ok {fault : ε} {result : α} :
    (throw fault : Except ε α) ≠ .ok result := by
  simp [throw, throwThe, MonadExceptOf.throw]

@[simp]
theorem mapError_ok (wrap : ε → ε') (result : α) :
    (Except.ok result).mapError wrap = .ok result :=
  rfl

@[simp]
theorem mapError_error (wrap : ε → ε') (fault : ε) :
    (Except.error fault : Except ε α).mapError wrap = .error (wrap fault) :=
  rfl

@[simp]
theorem mapError_eq_ok_iff {wrap : ε → ε'} {outcome : Except ε α} {result : α} :
    outcome.mapError wrap = .ok result ↔ outcome = .ok result := by
  cases outcome <;> simp

@[simp]
theorem mapError_eq_error_iff {wrap : ε → ε'} {outcome : Except ε α} {fault : ε'} :
    outcome.mapError wrap = .error fault ↔
      ∃ inner, outcome = .error inner ∧ wrap inner = fault := by
  cases outcome <;> simp

theorem toOption_eq_some_iff {outcome : Except ε α} {result : α} :
    outcome.toOption = some result ↔ outcome = .ok result := by
  cases outcome <;> simp [Except.toOption]

/-- What is seen of a result is seen of one that is there. -/
theorem exists_ok_of_view {outcome : Except ε α} {view : α → β} {seen : β}
    (viewed : outcome.toOption.map view = some seen) :
    ∃ result, outcome = .ok result ∧ view result = seen := by
  cases outcome with
  | error fault => cases viewed
  | ok result => exact ⟨result, rfl, Option.some.inj viewed⟩

end Checked

namespace Reported

variable {ε ε' α β : Type}

@[simp]
theorem outcome_pure (value : α) : (pure value : Reported ε α).outcome = .ok value :=
  rfl

@[simp]
theorem outcome_fail (fault : ε) : (fail fault : Reported ε α).outcome = .error fault :=
  rfl

@[simp]
theorem outcome_ofExcept (outcome : Except ε α) : (ofExcept outcome).outcome = outcome :=
  rfl

@[simp]
theorem outcome_report (source : Source) (level : Level) (message : String) :
    (report source level message : Reported ε Unit).outcome = .ok () :=
  rfl

@[simp]
theorem outcome_mapFault (wrap : ε → ε') (reported : Reported ε α) :
    (reported.mapFault wrap).outcome = reported.outcome.mapError wrap :=
  rfl

theorem outcome_bind (first : Reported ε α) (next : α → Reported ε β) :
    (first >>= next).outcome =
      match first.outcome with
      | .ok value => (next value).outcome
      | .error fault => .error fault := by
  change (first.andThen next).outcome = _
  cases ended : first.outcome <;> simp [andThen, ended]

theorem ok_bind (value : α) (next : α → Reported ε β) : (ok value >>= next) = next value :=
  rfl

@[simp]
theorem records_pure (value : α) : (pure value : Reported ε α).records = [] :=
  rfl

@[simp]
theorem records_ofExcept (outcome : Except ε α) : (ofExcept outcome).records = [] :=
  rfl

@[simp]
theorem records_report (source : Source) (level : Level) (message : String) :
    (report source level message : Reported ε Unit).records = [⟨source, level, message⟩] :=
  rfl

@[simp]
theorem records_mapFault (wrap : ε → ε') (reported : Reported ε α) :
    (reported.mapFault wrap).records = reported.records :=
  rfl

/-- The records of a computation are those of its parts up to the first that
fails. -/
theorem records_bind (first : Reported ε α) (next : α → Reported ε β) :
    (first >>= next).records =
      match first.outcome with
      | .ok value => first.records ++ (next value).records
      | .error _ => first.records := by
  change (first.andThen next).records = _
  cases ended : first.outcome <;> simp [andThen, ended]

@[simp]
theorem outcome_bind_eq_ok_iff {first : Reported ε α} {next : α → Reported ε β}
    {result : β} :
    (first >>= next).outcome = .ok result ↔
      ∃ value, first.outcome = .ok value ∧ (next value).outcome = .ok result := by
  rw [outcome_bind]
  cases first.outcome <;> simp

@[simp]
theorem outcome_bind_eq_error_iff {first : Reported ε α} {next : α → Reported ε β}
    {fault : ε} :
    (first >>= next).outcome = .error fault ↔
      first.outcome = .error fault ∨
        ∃ value, first.outcome = .ok value ∧ (next value).outcome = .error fault := by
  rw [outcome_bind]
  cases first.outcome <;> simp

end Reported

end RelayPool.Log
