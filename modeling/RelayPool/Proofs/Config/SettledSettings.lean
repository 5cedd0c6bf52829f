import RelayPool.Proofs.Config.PartialResolution

/-!
# Settled settings

A default is never open itself, so what has been settled is not settled
again.  All sections are settled before the first fault that can follow the
mode, so once a mode has been accepted another run leaves the mode and the
sections as they are, whatever has become of the nodes and the files.
-/

namespace RelayPool.Config

section Defaults

theorem orText_orText (text default : String) :
    orText (orText text default) default = orText text default := by
  by_cases unset : text = "" <;> simp [orText, unset]

theorem orPort_orPort (port default : Int) :
    orPort (orPort port default) default = orPort port default := by
  by_cases unset : port = 0 <;> simp [orPort, unset]

theorem settleListener_settleListener (listener : Listener) :
    settleListener (settleListener listener) = settleListener listener := by
  simp only [settleListener, orText_orText, orPort_orPort]

theorem settleMultiPort_settleMultiPort (multiPort : MultiPort) :
    settleMultiPort (settleMultiPort multiPort) = settleMultiPort multiPort := by
  simp only [settleMultiPort, orText_orText, orPort_orPort]

theorem settleManagement_settleManagement (management : Management) :
    settleManagement (settleManagement management) = settleManagement management := by
  simp only [settleManagement, orText_orText, Option.getD_some]

theorem settlePool_settlePool (pool : Pool) : settlePool (settlePool pool) = settlePool pool := by
  have threshold_pos : ¬ defaultFailureThreshold ≤ 0 := by decide
  have duration_pos : ¬ defaultBlacklistDuration.microseconds ≤ 0 := by decide
  by_cases threshold : pool.failureThreshold ≤ 0 <;>
    by_cases duration : pool.blacklistDuration.microseconds ≤ 0 <;>
    simp [settlePool, orText_orText, threshold, duration, threshold_pos, duration_pos]

theorem settle_settle (mode : String) (config : Config) :
    settle mode (settle mode config) = settle mode config := by
  simp only [settle, settleListener_settleListener, settleMultiPort_settleMultiPort,
    settlePool_settlePool, settleManagement_settleManagement]

theorem mode?_of_supported {name mode : String} (supported : mode? name = some mode) :
    mode? mode = some mode := by
  rcases eq_poolMode_or_multiPortMode supported with rfl | rfl <;> decide

end Defaults

/-- A mode and sections that resolving leaves as they are. -/
structure SettingsFinal (config : Config) : Prop where
  mode_final : mode? config.mode = some config.mode
  sections_final : SameSettings (settle config.mode config) config

section Runs

variable {tree : FileTree} {config other : Config} {mode : String}

theorem settingsFinal_settle (supported : mode? config.mode = some mode) :
    SettingsFinal (settle mode config) where
  mode_final := mode?_of_supported supported
  sections_final :=
    { mode_eq := rfl
      listener_eq := settleListener_settleListener config.listener
      multiPort_eq := settleMultiPort_settleMultiPort config.multiPort
      pool_eq := settlePool_settlePool config.pool
      management_eq := settleManagement_settleManagement config.management }

theorem SettingsFinal.congr (final : SettingsFinal config) (same : SameSettings other config) :
    SettingsFinal other where
  mode_final := by rw [same.mode_eq, final.mode_final]
  sections_final := by
    rw [same.mode_eq]
    exact ((same.settle config.mode).trans final.sections_final).trans same.symm

/-- Resolving refuses exactly a mode that no name means. -/
theorem fault_eq_unsupportedMode_iff :
    (resolve tree config).fault = some (.unsupportedMode mode) ↔
      mode? config.mode = none ∧ config.mode = mode := by
  constructor
  · intro refused
    cases (fault_eq_some_iff_firstFault tree config _).mp refused with
    | unsupportedMode unknown => exact ⟨(mode?_eq_none_iff config.mode).mpr unknown, rfl⟩
  · rintro ⟨unsupported, rfl⟩
    rw [resolve_of_unsupported unsupported]

/-- What resolving leaves of a mode that it has accepted, and of the sections,
is final, wherever it ends. -/
theorem settingsFinal_resolve
    (accepted : ∀ mode, (resolve tree config).fault ≠ some (.unsupportedMode mode)) :
    SettingsFinal (resolve tree config).config := by
  have known : mode? config.mode ≠ none := fun unsupported =>
    accepted config.mode (fault_eq_unsupportedMode_iff.mpr ⟨unsupported, rfl⟩)
  obtain ⟨mode, supported⟩ := Option.ne_none_iff_exists'.mp known
  exact (settingsFinal_settle supported).congr (sameSettings_resolve tree supported)

theorem SettingsFinal.not_unsupportedMode (final : SettingsFinal config) (tree : FileTree)
    (mode : String) : (resolve tree config).fault ≠ some (.unsupportedMode mode) := by
  intro refused
  have unsupported := (fault_eq_unsupportedMode_iff.mp refused).1
  rw [final.mode_final] at unsupported
  cases unsupported

theorem SettingsFinal.resolve (final : SettingsFinal config) (tree : FileTree) :
    SameSettings (resolve tree config).config config :=
  (sameSettings_resolve tree final.mode_final).trans final.sections_final

end Runs

end RelayPool.Config
