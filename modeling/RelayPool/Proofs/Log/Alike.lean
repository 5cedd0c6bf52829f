import RelayPool.Log.Reported

/-!
# Computations that report alike

Two computations are alike when they make the same records and end with the same
fault or with related results.  What is put together from computations that are
alike, part by part, is alike.
-/

namespace RelayPool.Log.Reported

variable {ε ε' α β γ δ : Type} {related : α → β → Prop} {relatedNext : γ → δ → Prop}

inductive Alike (related : α → β → Prop) : Reported ε α → Reported ε β → Prop
  | ok (records : List Record) {value : α} {other : β} (values : related value other) :
      Alike related ⟨records, .ok value⟩ ⟨records, .ok other⟩
  | error (records : List Record) (fault : ε) :
      Alike related ⟨records, .error fault⟩ ⟨records, .error fault⟩

section Parts

variable {first : Reported ε α} {other : Reported ε β}

theorem Alike.refl (first : Reported ε α) : Alike Eq first first := by
  obtain ⟨records, outcome⟩ := first
  cases outcome with
  | ok value => exact .ok records rfl
  | error fault => exact .error records fault

theorem Alike.pure {value : α} {second : β} (values : related value second) :
    Alike related (Pure.pure value : Reported ε α) (Pure.pure second) :=
  .ok [] values

theorem Alike.bind {next : α → Reported ε γ} {nextOther : β → Reported ε δ}
    (alike : Alike related first other)
    (later : ∀ value second, first.outcome = .ok value → related value second →
      Alike relatedNext (next value) (nextOther second)) :
    Alike relatedNext (first >>= next) (other >>= nextOther) := by
  cases alike with
  | @ok records value second values =>
      change Alike relatedNext ⟨records ++ (next value).records, (next value).outcome⟩
        ⟨records ++ (nextOther second).records, (nextOther second).outcome⟩
      have alikeNext := later value second rfl values
      generalize next value = after at alikeNext ⊢
      generalize nextOther second = afterOther at alikeNext ⊢
      cases alikeNext with
      | ok recordsNext results => exact .ok (records ++ recordsNext) results
      | error recordsNext fault => exact .error (records ++ recordsNext) fault
  | error records fault => exact .error records fault

/-- A first part that both computations have. -/
theorem Alike.bind_same {next : α → Reported ε γ} {nextOther : α → Reported ε δ}
    (first : Reported ε α) (later : ∀ value, Alike relatedNext (next value) (nextOther value)) :
    Alike relatedNext (first >>= next) (first >>= nextOther) := by
  apply (Alike.refl first).bind
  rintro value _ - rfl
  exact later value

theorem Alike.mapFault (alike : Alike related first other) (wrap : ε → ε') :
    Alike related (first.mapFault wrap) (other.mapFault wrap) := by
  cases alike with
  | ok records values => exact .ok records values
  | error records fault => exact .error records (wrap fault)

end Parts

end RelayPool.Log.Reported
