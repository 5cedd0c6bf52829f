import RelayPool.Proofs.Config.Credentials
import RelayPool.Proofs.Duration.Positive

/-!
# The blacklist duration of a document

A configuration keeps a duration that is some time, and has the default for any
other.  A text without a minus is any other only where its components sum up to half
a microsecond or less, and so are rounded to no time.
-/

namespace RelayPool.Config

open Duration (componentsOf totalSeconds)
open Number.Binary64 (unit)

/-- Where a document holds the blacklist duration. -/
def blacklistRoute : List RouteStep :=
  [.key "pool", .key "blacklist_duration"]

/-- What resolving makes of a blacklist duration. -/
def keptDuration (span : TimeSpan) : TimeSpan :=
  if 0 < span.microseconds then span else defaultBlacklistDuration

section Duration

variable {tree : FileTree} {document : Document} {config : Config} {text : String}
  {span : TimeSpan}

theorem asDuration_of_poolOfEntries {entries : Entries} {scope : String} {pool : Pool}
    (read : poolOfEntries scope entries = .ok pool) :
    setting asDuration scope entries "blacklist_duration" = .ok pool.blacklistDuration := by
  simp only [poolOfEntries, Log.bind_eq_ok_iff, Log.pure_eq_ok_iff] at read
  obtain ⟨_, -, _, -, _, durationRead, rfl⟩ := read
  exact durationRead

theorem blacklistDuration_of_ofDocument (decoded : (ofDocument document).outcome = .ok config)
    (given : document.at? blacklistRoute = some (.text text))
    (read : Duration.ofDocument (.text text) = .ok span) :
    config.pool.blacklistDuration = span := by
  obtain ⟨entries, inner, rfl, found, given⟩ := Document.at?_key given
  obtain ⟨settings, inner, rfl, looked, given⟩ := Document.at?_key given
  cases given
  have poolRead := (partsRead_of_ofEntries decoded).pool
  rw [found] at poolRead
  have durationRead := asDuration_of_poolOfEntries (read_of_readPart poolRead)
  rw [setting, looked, asDuration_of_given _ (by simp), read] at durationRead
  exact (Except.ok.inj durationRead).symm

/-- Resolving keeps a duration that is some time. -/
theorem blacklistDuration_of_resolve (success : (resolve tree config).fault = none) :
    (resolve tree config).config.pool.blacklistDuration =
      keptDuration config.pool.blacklistDuration := by
  obtain ⟨mode, raw, resolvable⟩ := exists_resolvable_of_success success
  rw [(resolve_of_resolvable resolvable).1]
  change (settlePool config.pool).blacklistDuration = _
  rw [settlePool, keptDuration]
  simp only [← Int.not_lt, ite_not]

theorem blacklistDuration_of_load {path : String}
    (loaded : (load tree path).outcome = .ok config)
    (holds : Holds tree (tidyPath path) document)
    (given : document.at? blacklistRoute = some (.text text))
    (read : Duration.ofDocument (.text text) = .ok span) :
    config.pool.blacklistDuration = keptDuration span := by
  rw [load, outcome_loadTidy_of_holds holds] at loaded
  split at loaded
  · cases loaded
  · next decoded accepted =>
      have duration := blacklistDuration_of_ofDocument accepted given read
      rw [outcome_resolved] at loaded
      split at loaded
      · cases loaded
      · next success =>
          cases loaded
          rw [blacklistDuration_of_resolve success]
          exact congrArg keptDuration duration

end Duration

/-- A text without a minus that is read as a duration is no negative time.  It is some
time exactly when its components sum up to more than half a microsecond, as they do
when one of them lasts a microsecond.  A configuration keeps it exactly when it is
some time, and has the default for it else. -/
theorem blacklistDuration_of_text {text : String} {span : TimeSpan}
    (unsigned : (Text.strip text).toList.head? ≠ some '-')
    (read : Duration.ofDocument (.text text) = .ok span) :
    0 ≤ span.microseconds ∧
      (∃ quanta, totalSeconds (componentsOf text) = .finite false quanta ∧
        (0 < span.microseconds ↔ unit < 2000000 * quanta)) ∧
      (∀ component ∈ componentsOf text, component.LastsMicrosecond → 0 < span.microseconds) ∧
      (∀ (tree : FileTree) (document : Document) (decoded : Config),
        document.at? blacklistRoute = some (.text text) →
          (ofDocument document).outcome = .ok decoded →
          (resolve tree decoded).fault = none →
            (resolve tree decoded).config.pool.blacklistDuration = keptDuration span) ∧
      ∀ (tree : FileTree) (path : String) (document : Document) (config : Config),
        Holds tree (tidyPath path) document →
          document.at? blacklistRoute = some (.text text) →
          (load tree path).outcome = .ok config →
            config.pool.blacklistDuration = keptDuration span := by
  obtain ⟨nonnegative, positive⟩ := Duration.microseconds_pos_iff unsigned read
  refine ⟨nonnegative, positive, fun component member lasts =>
    Duration.microseconds_pos_of_lastsMicrosecond unsigned read member lasts, ?_, ?_⟩
  · intro tree document decoded given accepted success
    rw [blacklistDuration_of_resolve success,
      blacklistDuration_of_ofDocument accepted given read]
  · intro tree path document config holds given loaded
    exact blacklistDuration_of_load loaded holds given read

/-- The bytes of a file that gives a blacklist duration. -/
def durationBytes (text : String) : List UInt8 :=
  Text.Utf8.encode
    ("pool:\n  blacklist_duration: " ++ text ++ "\nnodes:\n- uri: s://h:1\n").toList

def durationTree (text : String) : FileTree :=
  FileTree.empty.put "c.yaml" (.file (durationBytes text))

/-- The text that a document gives for the blacklist duration. -/
def blacklistText? (document : Document) : Option String :=
  match document.at? blacklistRoute with
  | some (.text text) => some text
  | _ => none

theorem at?_of_blacklistText? {document : Document} {text : String}
    (shown : blacklistText? document = some text) :
    document.at? blacklistRoute = some (.text text) := by
  unfold blacklistText? at shown
  split at shown
  · next found =>
      cases shown
      exact found
  · cases shown

theorem exists_holds_durationTree (written text : String)
    (viewed : (Yaml.Source.ofBytes (durationBytes written)).value?.toOption.map
      (fun parsed => blacklistText? (documentOf parsed)) = some (some text)) :
    ∃ document, Holds (durationTree written) (tidyPath "c.yaml") document ∧
      document.at? blacklistRoute = some (.text text) := by
  obtain ⟨parsed, source, shown⟩ := Log.exists_ok_of_view viewed
  exact ⟨_, ⟨_, parsed, rfl, source, rfl⟩, at?_of_blacklistText? shown⟩

/-- Parts of a microsecond are summed up before they are rounded. -/
theorem blacklistDuration_of_text_nanoseconds :
    (Text.strip " +300ns.4us1us").toList.head? ≠ some '-' ∧
      Duration.ofDocument (.text " +300ns.4us1us") = .ok ⟨2⟩ ∧
      (∃ component ∈ componentsOf " +300ns.4us1us", component.LastsMicrosecond) ∧
      (0 : Int) < 2 ∧
      ∃ document config, Holds (durationTree "\" +300ns.4us1us\"") (tidyPath "c.yaml") document ∧
        document.at? blacklistRoute = some (.text " +300ns.4us1us") ∧
        (load (durationTree "\" +300ns.4us1us\"") "c.yaml").outcome = .ok config ∧
        config.pool.blacklistDuration = ⟨2⟩ := by
  have unsigned : (Text.strip " +300ns.4us1us").toList.head? ≠ some '-' := by decide +kernel
  have read : Duration.ofDocument (.text " +300ns.4us1us") = .ok ⟨2⟩ :=
    Log.toOption_eq_some_iff.mp (by decide +kernel)
  have lasting : ∃ component ∈ componentsOf " +300ns.4us1us", component.LastsMicrosecond := by
    decide +kernel
  obtain ⟨component, member, lasts⟩ := lasting
  obtain ⟨document, holds, given⟩ :=
    exists_holds_durationTree "\" +300ns.4us1us\"" " +300ns.4us1us" (by decide +kernel)
  obtain ⟨config, loaded, -⟩ : ∃ config,
      (load (durationTree "\" +300ns.4us1us\"") "c.yaml").outcome = .ok config ∧
        config.mode = poolMode := Log.exists_ok_of_view (by decide +kernel)
  obtain ⟨-, -, positive, -, kept⟩ := blacklistDuration_of_text unsigned read
  exact ⟨unsigned, read, ⟨component, member, lasts⟩, positive component member lasts,
    document, config, holds, given, loaded, kept _ _ _ _ holds given loaded⟩

/-- A nanosecond is rounded to no time, and the configuration has the default. -/
theorem not_kept_nanosecond :
    (Text.strip "1ns").toList.head? ≠ some '-' ∧
      (∃ component ∈ componentsOf "1ns",
        0 < Number.digitsValue 10 (component.whole ++ component.fraction)) ∧
      Duration.ofDocument (.text "1ns") = .ok .zero ∧
      ∃ document config, Holds (durationTree "1ns") (tidyPath "c.yaml") document ∧
        document.at? blacklistRoute = some (.text "1ns") ∧
        (load (durationTree "1ns") "c.yaml").outcome = .ok config ∧
        config.pool.blacklistDuration = defaultBlacklistDuration := by
  obtain ⟨document, holds, given⟩ :=
    exists_holds_durationTree "1ns" "1ns" (by decide +kernel)
  obtain ⟨config, loaded, settled⟩ : ∃ config,
      (load (durationTree "1ns") "c.yaml").outcome = .ok config ∧
        config.pool.blacklistDuration = defaultBlacklistDuration :=
    Log.exists_ok_of_view (by decide +kernel)
  exact ⟨by decide +kernel, by decide +kernel, Log.toOption_eq_some_iff.mp (by decide +kernel),
    document, config, holds, given, loaded, settled⟩

end RelayPool.Config
