import RelayPool.Proofs.Config.SettledSettings
import RelayPool.Proofs.Session.Trace

/-!
# Settled settings in a session

Once resolving has accepted the mode of a configuration, its mode and its
sections stay as they are: no matter where that run ended, which nodes come and
go, and what happens to the files.  Only another configuration in its place or
an assignment of the mode or of a section ends this.
-/

namespace RelayPool.Session

open Config (SameSettings SettingsFinal)

/-- A step that puts another configuration in place, or assigns a mode or a
section.  What cannot be decoded or loaded takes no place. -/
def Replaces (step : Step) (report : StepReport) : Prop :=
  match step with
  | .renew => True
  | .decode _ | .load _ => report.outcome.isOk
  | .assign change => ¬ ∀ config, SameSettings (change config) config
  | _ => False

/-- Resolving a session ends at its mode. -/
def RefusesMode (report : StepReport) : Prop :=
  ∃ mode, report.outcome = .error (.resolve (.unsupportedMode mode))

section Steps

variable {session : Session} {next : Step}

/-- A result that does not take the place of the configuration leaves it. -/
theorem config_replacing_of_not_isOk {ε : Type} {wrap : ε → StepFault}
    {result : Log.Reported ε Config}
    (failed : ¬ (session.replacing wrap result).outcome.isOk) :
    (session.replacing wrap result).session.config = session.config := by
  unfold replacing at failed ⊢
  split
  · next succeeded =>
      rw [succeeded] at failed
      exact absurd rfl failed
  · rfl

/-- Settled settings are kept by every step that does not replace them. -/
theorem sameSettings_step (final : SettingsFinal session.config)
    (kept : ¬ Replaces next (session.step next)) :
    SameSettings (session.step next).session.config session.config := by
  cases next with
  | renew => exact absurd trivial kept
  | decode document =>
      rw [step_decode] at kept ⊢
      rw [config_replacing_of_not_isOk kept]
      exact .refl _
  | load path =>
      rw [step_load] at kept ⊢
      rw [config_replacing_of_not_isOk kept]
      exact .refl _
  | write path entry => exact .refl _
  | remove path => exact .refl _
  | assign change => exact not_not.mp kept session.config
  | addNode node => exact ⟨rfl, rfl, rfl, rfl, rfl⟩
  | removeNode index =>
      rw [step_removeNode, config_withNodes]
      exact ⟨rfl, rfl, rfl, rfl, rfl⟩
  | changeNode index change =>
      rw [step_changeNode, config_withNodes]
      exact ⟨rfl, rfl, rfl, rfl, rfl⟩
  | resolve => exact final.resolve session.tree
  | includeListed =>
      rw [step_includeListed]
      exact @holds_replacing _ _ (SameSettings · session.config) _ _ (.refl _)
        fun _ => Config.sameSettings_includeListed
  | summarize =>
      rw [session_step_summarize]
      exact .refl _
  | askEnabled => exact .refl _

theorem refusesMode_step_resolve_iff :
    RefusesMode (session.step .resolve) ↔
      ∃ mode, (session.config.resolve session.tree).fault = some (.unsupportedMode mode) := by
  constructor
  · rintro ⟨mode, refused⟩
    obtain ⟨cause, stopped, isMode⟩ := outcome_step_resolve_eq_error_iff.mp refused
    obtain rfl := StepFault.resolve.inj isMode
    exact ⟨mode, stopped⟩
  · rintro ⟨mode, stopped⟩
    exact ⟨mode, outcome_step_resolve_eq_error_iff.mpr ⟨_, stopped, rfl⟩⟩

end Steps

/-- Once resolving has accepted the mode, wherever it then ended, the mode and
the sections stay as it left them and the mode is not refused, until a step
replaces them. -/
theorem settings_kept_of_resolve (session : Session)
    (accepted : ¬ RefusesMode (session.step .resolve)) (later : List Step) (number : Nat)
    (kept : ∀ taken ∈ ((session.step .resolve).session.trace later).take number,
      ¬ Replaces taken.1 taken.2) :
    ∀ next report,
      (next, report) ∈ ((session.step .resolve).session.trace later).take number →
        SameSettings report.session.config (session.step .resolve).session.config ∧
          (next = .resolve → ¬ RefusesMode report) := by
  rw [take_trace] at kept ⊢
  have initially : SettingsFinal (session.step .resolve).session.config := by
    rw [config_step_resolve]
    refine Config.settingsFinal_resolve fun mode refused => accepted ?_
    exact refusesMode_step_resolve_iff.mpr ⟨mode, refused⟩
  generalize (session.step .resolve).session = resolved at initially kept ⊢
  intro next report member
  obtain ⟨before, same, rfl⟩ :=
    @holds_before_of_mem_trace (fun session => SameSettings session.config resolved.config)
      (fun next report => ¬ Replaces next report)
      (fun same allowed => (sameSettings_step (initially.congr same) allowed).trans same)
      _ _ (.refl _) kept next report member
  have final := initially.congr same
  refine ⟨(sameSettings_step final (kept _ member)).trans same, ?_⟩
  rintro rfl refused
  obtain ⟨mode, stopped⟩ := refusesMode_step_resolve_iff.mp refused
  exact final.not_unsupportedMode before.tree mode stopped

/-- A session whose node list file is missing. -/
def unlistedSession : Session :=
  ⟨{ mode := "multi_port", nodesFile := "n" }, .empty⟩

/-- The file is written, read twice and removed, a file that is no configuration
cannot be loaded, and in the end everything is replaced. -/
def laterSteps : List Step :=
  [.write "n" (.file (Text.Utf8.encode "s://h:1#A".toList)), .resolve,
    .addNode { uri := " " }, .resolve, .load "n", .decode .null, .remove "n", .resolve,
    .assign fun config => { config with nodesFile := "", logLevel := "debug" },
    .removeNode (-1), .includeListed, .renew, .resolve]

theorem settings_kept_of_resolve_unlistedSession :
    let taken := (unlistedSession.step .resolve).session.trace laterSteps
    (unlistedSession.step .resolve).outcome.isOk = false ∧
      ¬ RefusesMode (unlistedSession.step .resolve) ∧
      (∀ step ∈ taken.take 11, ¬ Replaces step.1 step.2) ∧
      (taken.take 11).map (·.2.outcome.isOk) =
        [true, true, true, false, false, false, true, false, true, true, true] ∧
      ∀ next report, (next, report) ∈ taken.take 11 →
        SameSettings report.session.config (unlistedSession.step .resolve).session.config ∧
          (next = .resolve → ¬ RefusesMode report) := by
  have accepted : ¬ RefusesMode (unlistedSession.step .resolve) := by
    rintro ⟨mode, refused⟩
    cases refused
  have kept : ∀ step ∈ ((unlistedSession.step .resolve).session.trace laterSteps).take 11,
      ¬ Replaces step.1 step.2 := by
    simp only [laterSteps, trace_cons, List.take_succ_cons, List.take_zero,
      List.forall_mem_cons]
    refine ⟨id, id, id, id, ?_, ?_, id, id, ?_, id, id, by simp⟩
    · simp only [Replaces]
      decide +kernel
    · simp only [Replaces]
      decide +kernel
    · exact not_not.mpr fun config => ⟨rfl, rfl, rfl, rfl, rfl⟩
  refine ⟨by decide +kernel, accepted, kept, by decide +kernel, ?_⟩
  exact settings_kept_of_resolve unlistedSession accepted laterSteps 11 kept

end RelayPool.Session
