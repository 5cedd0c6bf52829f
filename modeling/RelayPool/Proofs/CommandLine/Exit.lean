import RelayPool.CommandLine.Run
import RelayPool.Proofs.CommandLine.ConfigArgument
import RelayPool.Proofs.Config.DigitFaults
import RelayPool.Proofs.Config.LoadContract
import RelayPool.Proofs.Config.Resolved

/-!
# How commands end

A command on a configuration file is meant to end with exit code 0 when the
file loads and with 2 when it does not.  Two things break it off instead: a
fault of loading that is not one of the configuration, and a summary with an
integer too long to be shown.  Of the integers in a summary only the failure
threshold can be too long, as the others are ports.
-/

namespace RelayPool.CommandLine

open Config (Uncaught KeepsContract FaultKind)

/-- An exit tells whether the configuration at a path loads. -/
def ExitsAsLoaded (tree : FileTree) (path : String) (exit : Except Escape Nat) : Prop :=
  ((∃ config, (Config.load tree path).outcome = .ok config) ∧ exit = .ok 0) ∨
    ((∃ fault, (Config.load tree path).outcome = .error fault) ∧ exit = .ok 2)

/-- The configuration at a path loads with a failure threshold too long to be
shown. -/
def HidesThreshold (tree : FileTree) (path : String) : Prop :=
  ∃ config, (Config.load tree path).outcome = .ok config ∧
    Number.intText? config.pool.failureThreshold = none

section Summary

theorem intText?_of_isBindable {port : Int} (bindable : IsBindable port) :
    Number.intText? port = some (Number.intText port) := by
  have short : port.natAbs < Nat.pow 10 5 := by
    have highest : port ≤ 65535 := bindable.2
    have lowest := bindable.1
    have power : Nat.pow 10 5 = 100000 := rfl
    omega
  have wide : 5 ≤ Number.digitLimit := by decide
  unfold Number.intText?
  generalize Number.digitLimit = limit at wide
  exact if_pos (Nat.lt_of_lt_of_le short (Nat.pow_le_pow_right (by decide) wide))

theorem summary?_eq_none_iff {config : Config} (resolved : config.Resolved) :
    config.summary? = none ↔ Number.intText? config.pool.failureThreshold = none := by
  have portShown : (Number.intText?
      (if config.mode = Config.multiPortMode then config.multiPort.basePort
        else config.listener.port)).isSome := by
    split
    · rw [intText?_of_isBindable resolved.basePort_bindable, Option.isSome_some]
    · rw [intText?_of_isBindable resolved.listenerPort_bindable, Option.isSome_some]
  cases shown : Number.intText? config.pool.failureThreshold <;>
    simp [Config.summary?, Config.summaryIntegers, portShown, shown]

theorem commandLines?_eq_none_iff {config : Config} (resolved : config.Resolved)
    (command : Command) :
    commandLines? config command = none ↔
      command = .check ∧ Number.intText? config.pool.failureThreshold = none := by
  cases command with
  | check => simp [commandLines?, summary?_eq_none_iff resolved]
  | nodes => simp [commandLines?]

end Summary

section Exits

variable {tree : FileTree} {path : String}

theorem exit_loadFailure (path : String) (fault : Config.LoadFault) :
    (loadFailure path fault).1 =
      if fault.kind = .foreign then .error (.load fault) else .ok 2 := by
  cases fault with
  | decode fault => cases fault <;> rfl
  | _ => rfl

theorem exit_commandRun_of_error {fault : Config.LoadFault}
    (failed : (Config.loadTidy tree path).outcome = .error fault) (command : Command)
    (verbose : Bool) :
    (commandRun tree command path verbose).1 =
      if fault.kind = .foreign then .error (.load fault) else .ok 2 := by
  rw [← exit_loadFailure path]
  simp only [commandRun, failed]

theorem exit_commandRun_of_ok {config : Config}
    (loaded : (Config.loadTidy tree path).outcome = .ok config) (command : Command)
    (verbose : Bool) :
    (commandRun tree command path verbose).1 =
      if commandLines? config command = none then .error .tooManyDigits else .ok 0 := by
  simp only [commandRun, loaded]
  cases commandLines? config command <;> rfl

theorem exit_run_commandWords (plain : IsPlain path) (command : Command)
    (verbose quiet : Bool) :
    (run tree (.ofWords (commandWords command path verbose quiet))).exit =
      (commandRun tree command (tidyPath path) verbose).1 := by
  rw [ofWords_commandWords command verbose quiet plain]
  rfl

end Exits

/-- A command on a configuration that cannot be loaded ends as it should
exactly when the fault is one that callers handle. -/
theorem exitsAsLoaded_of_error {tree : FileTree} {path : String} {fault : Config.LoadFault}
    (failed : (Config.load tree path).outcome = .error fault) (plain : IsPlain path)
    (command : Command) (verbose quiet : Bool) :
    ExitsAsLoaded tree path
        (run tree (.ofWords (commandWords command path verbose quiet))).exit ↔
      fault.kind ≠ .foreign := by
  rw [exit_run_commandWords plain, exit_commandRun_of_error failed]
  by_cases outside : fault.kind = .foreign <;> simp [ExitsAsLoaded, failed, outside]

/-- A command on a configuration that loads ends as it should unless it shows a
failure threshold that is too long. -/
theorem exitsAsLoaded_of_ok {tree : FileTree} {path : String} {config : Config}
    (loaded : (Config.load tree path).outcome = .ok config) (plain : IsPlain path)
    (command : Command) (verbose quiet : Bool) :
    ExitsAsLoaded tree path
        (run tree (.ofWords (commandWords command path verbose quiet))).exit ↔
      ¬ (command = .check ∧ HidesThreshold tree path) := by
  obtain ⟨document, decoded, loads⟩ := Config.outcome_loadTidy_eq_ok_iff.mp loaded
  have hides : HidesThreshold tree path ↔
      Number.intText? config.pool.failureThreshold = none := by
    simp [HidesThreshold, loaded]
  rw [hides, ← commandLines?_eq_none_iff (Config.resolved_of_loads loads),
    exit_run_commandWords plain, exit_commandRun_of_ok loaded]
  by_cases unshown : commandLines? config command = none <;>
    simp [ExitsAsLoaded, loaded, unshown]

theorem exitsAsLoaded_iff {tree : FileTree} {path : String} (plain : IsPlain path)
    (command : Command) (verbose quiet : Bool) :
    ExitsAsLoaded tree path
        (run tree (.ofWords (commandWords command path verbose quiet))).exit ↔
      ¬ Uncaught tree (tidyPath path) ∧ ¬ (command = .check ∧ HidesThreshold tree path) := by
  rw [← Config.foreign_iff_uncaught]
  cases ended : (Config.load tree path).outcome with
  | error fault =>
      have unloaded : ¬ HidesThreshold tree path := by simp [HidesThreshold, ended]
      rw [exitsAsLoaded_of_error ended plain]
      simp [unloaded]
  | ok config =>
      rw [exitsAsLoaded_of_ok ended plain]
      simp

/-- Loading keeps its contract exactly where nothing is uncaught.  A command
ends as it should exactly where, besides, it shows no failure threshold that is
too long.  Digits that are uncaught stand in the document itself. -/
theorem contract_iff (tree : FileTree) (path : String) :
    (KeepsContract (Config.load tree path).outcome ↔ ¬ Uncaught tree (tidyPath path)) ∧
      (IsPlain path → ∀ command verbose quiet,
        (ExitsAsLoaded tree path
            (run tree (.ofWords (commandWords command path verbose quiet))).exit ↔
          ¬ Uncaught tree (tidyPath path) ∧
            ¬ (command = .check ∧ HidesThreshold tree path))) ∧
      ∀ document, (Config.ofDocument document).outcome = .error .tooManyDigits →
        document.HoldsLong := by
  refine ⟨Config.keepsContract_load_iff, exitsAsLoaded_iff, ?_⟩
  intro document refused
  exact Config.holdsLong_of_tooManyDigits refused

theorem contract_iff_lastPortTree :
    IsPlain "c.yaml" ∧ KeepsContract (Config.load Config.lastPortTree "c.yaml").outcome ∧
      ExitsAsLoaded Config.lastPortTree "c.yaml"
        (run Config.lastPortTree (.ofWords (commandWords .check "c.yaml" true false))).exit := by
  obtain ⟨contract, exits, -⟩ := contract_iff Config.lastPortTree "c.yaml"
  have plain : IsPlain "c.yaml" := by decide
  obtain ⟨config, loaded, threshold⟩ : ∃ config,
      (Config.load Config.lastPortTree "c.yaml").outcome = .ok config ∧
        config.pool.failureThreshold = 3 :=
    Log.exists_ok_of_view (by decide +kernel)
  have keeps : KeepsContract (Config.load Config.lastPortTree "c.yaml").outcome :=
    .inl ⟨config, loaded⟩
  have shown : ¬ HidesThreshold Config.lastPortTree "c.yaml" := by
    rintro ⟨config', loaded', long⟩
    obtain rfl : config = config' := Except.ok.inj (loaded.symm.trans loaded')
    rw [threshold, intText?_of_isBindable (by decide)] at long
    cases long
  have documented := (exits plain .check true false).mpr
    ⟨contract.mp keeps, fun hidden => shown hidden.2⟩
  exact ⟨plain, keeps, documented⟩

/-- A file with a date that is in no calendar. -/
def impossibleDate : FileTree :=
  FileTree.empty.put "c.yaml" (.file (Text.Utf8.encode "nodes: 2024-13-45\n".toList))

theorem not_keepsContract_impossibleDate :
    ¬ KeepsContract (Config.load impossibleDate "c.yaml").outcome ∧
      ∀ command verbose quiet, ¬ ExitsAsLoaded impossibleDate "c.yaml"
        (run impossibleDate (.ofWords (commandWords command "c.yaml" verbose quiet))).exit := by
  have escapes : (match (Config.load impossibleDate "c.yaml").outcome with
      | .ok _ => false
      | .error fault => fault.kind = FaultKind.foreign) = true := by
    decide +kernel
  cases ended : (Config.load impossibleDate "c.yaml").outcome with
  | ok config => simp [ended] at escapes
  | error fault =>
      have outside : fault.kind = FaultKind.foreign := by simpa [ended] using escapes
      constructor
      · rw [Config.keepsContract_iff]
        exact fun kept => kept ⟨fault, rfl, outside⟩
      · intro command verbose quiet documented
        have plain : IsPlain "c.yaml" := by decide
        exact (exitsAsLoaded_of_error ended plain command verbose quiet).mp documented outside

end RelayPool.CommandLine
