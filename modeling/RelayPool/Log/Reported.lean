import RelayPool.Log.Record

/-!
# Reported results

A computation that makes log records on its way to a result or a fault.  The
records made before a fault are kept.
-/

namespace RelayPool.Log

/-- A result or a fault, and the records made on the way to it. -/
structure Reported (ε α : Type) where
  records : List Record
  outcome : Except ε α

namespace Reported

variable {ε ε' α β : Type}

/-- A result without records. -/
def ok (value : α) : Reported ε α := ⟨[], .ok value⟩

/-- A fault without records. -/
def fail (fault : ε) : Reported ε α := ⟨[], .error fault⟩

/-- A result or a fault without records. -/
def ofExcept (outcome : Except ε α) : Reported ε α := ⟨[], outcome⟩

/-- One record. -/
def report (source : Source) (level : Level) (message : String) : Reported ε Unit :=
  ⟨[⟨source, level, message⟩], .ok ()⟩

/-- Continues after a result; a fault ends the computation. -/
def andThen (first : Reported ε α) (next : α → Reported ε β) : Reported ε β :=
  match first.outcome with
  | .ok value => ⟨first.records ++ (next value).records, (next value).outcome⟩
  | .error fault => ⟨first.records, .error fault⟩

instance : Monad (Reported ε) where
  pure := ok
  bind := andThen

/-- The same computation with its faults seen as those of a larger one. -/
def mapFault (wrap : ε → ε') (reported : Reported ε α) : Reported ε' α :=
  ⟨reported.records, reported.outcome.mapError wrap⟩

/-- Runs a computation for each value in turn. -/
def forEach (step : α → Reported ε β) : List α → Reported ε (List β)
  | [] => ok []
  | value :: rest => do
      let first ← step value
      let others ← forEach step rest
      return first :: others

end Reported

end RelayPool.Log
