import RelayPool.Proofs.Config.Loading

/-!
# Faults outside the contract of loading

A load is meant to fail in two ways only: nothing is at the path, or the fault
is one of the configuration.  Three kinds of faults are neither: a path that
cannot even be looked up, a value that is well formed and stands for nothing,
and an integer too long to be shown.  A load keeps the contract exactly where
none of them comes up.
-/

namespace RelayPool.Config

/-- A load gives a configuration, or fails in a way that callers handle. -/
def KeepsContract (outcome : Except LoadFault Config) : Prop :=
  (∃ config, outcome = .ok config) ∨
    ∃ fault, outcome = .error fault ∧
      (fault.kind = .missing ∨ fault.kind = .configuration)

/-- What makes a load fail in a way that callers do not handle. -/
inductive Uncaught (tree : FileTree) (path : String) : Prop
  | lookup (tooLong : tree.find path = .error .nameTooLong)
  | value {bytes : List UInt8} {fault : Yaml.ValueFault}
      (read : tree.read path = .ok bytes)
      (valueless : (Yaml.Source.ofBytes bytes).value? = .error (.value fault))
  | digits {document : Document} (holds : Holds tree path document)
      (refused : (ofDocument document).outcome = .error .tooManyDigits)

theorem keepsContract_iff (outcome : Except LoadFault Config) :
    KeepsContract outcome ↔
      ¬ ∃ fault, outcome = .error fault ∧ fault.kind = .foreign := by
  cases outcome with
  | ok config => simp [KeepsContract]
  | error fault => simp [KeepsContract, FaultKind.handled_iff]

section Foreign

variable {tree : FileTree} {path : String}

theorem uncaught_of_loadFails {fault : LoadFault} (failing : LoadFails tree path fault)
    (outside : fault.kind = .foreign) : Uncaught tree path := by
  cases failing with
  | unreachable tooLong => exact .lookup tooLong
  | value read valueless => exact .value read valueless
  | @decode document fault holds refused =>
      cases fault with
      | tooManyDigits => exact .digits holds refused
      | _ => cases outside
  | _ => cases outside

theorem exists_loadFails_of_uncaught (uncaught : Uncaught tree path) :
    ∃ fault, LoadFails tree path fault ∧ fault.kind = .foreign := by
  cases uncaught with
  | lookup tooLong => exact ⟨_, .unreachable tooLong, rfl⟩
  | value read valueless => exact ⟨_, .value read valueless, rfl⟩
  | digits holds refused => exact ⟨_, .decode holds refused, rfl⟩

/-- A load ends with a foreign fault exactly where something is uncaught. -/
theorem foreign_iff_uncaught :
    (∃ fault, (load tree path).outcome = .error fault ∧ fault.kind = .foreign) ↔
      Uncaught tree (tidyPath path) := by
  constructor
  · rintro ⟨fault, ended, outside⟩
    exact uncaught_of_loadFails (outcome_loadTidy_eq_error_iff.mp ended) outside
  · intro uncaught
    obtain ⟨fault, failing, outside⟩ := exists_loadFails_of_uncaught uncaught
    exact ⟨fault, outcome_of_loadFails failing, outside⟩

theorem keepsContract_load_iff :
    KeepsContract (load tree path).outcome ↔ ¬ Uncaught tree (tidyPath path) := by
  rw [keepsContract_iff, foreign_iff_uncaught]

end Foreign

end RelayPool.Config
