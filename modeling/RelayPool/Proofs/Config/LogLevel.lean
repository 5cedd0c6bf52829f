import RelayPool.Proofs.Config.Loading
import RelayPool.Proofs.Config.ResolveFaults
import RelayPool.Proofs.Document.Lookup
import RelayPool.Proofs.Log.Alike
import RelayPool.Proofs.Log.LevelName

/-!
# The log level of a configuration

Loading copies the log level of a document and does not look at it.  Documents
that differ in their log level alone are loaded with the same records and to the
same end, and the configurations differ in the log level alone.
-/

namespace RelayPool.Config

open Document (lookup? names)
open Log (IsLevelName Reported)

/-- Two configurations that differ at most in their log levels, both of one kind. -/
structure SameButLevel (allowed : String → Prop) (config other : Config) : Prop where
  same : other = { config with logLevel := other.logLevel }
  level : allowed config.logLevel
  otherLevel : allowed other.logLevel

/-- A log level that is known once an open one has its default. -/
def SettlesKnown (level : String) : Prop :=
  IsLevelName (orText level defaultLogLevel)

instance (level : String) : Decidable (SettlesKnown level) :=
  inferInstanceAs (Decidable (IsLevelName _))

/-- A value of the setting that chooses a known level. -/
def ChoosesLevel (value : Document) : Prop :=
  ∃ level, asText "log_level" (some value) = .ok level ∧ SettlesKnown level

section Decoding

variable {entries edited before after : Entries} {value second : Document}

/-- Which keys are unknown does not depend on the values. -/
theorem reportUnknown_congr (sameKeys : edited.map (·.1) = entries.map (·.1))
    (known : List String) (scope : String) :
    reportUnknown known scope edited = reportUnknown known scope entries := by
  induction entries generalizing edited with
  | nil =>
      obtain rfl := List.map_eq_nil_iff.mp sameKeys
      rfl
  | cons entry rest ih =>
      obtain ⟨other, later, rfl, firstKey, restKeys⟩ := List.map_eq_cons_iff.mp sameKeys
      dsimp only at firstKey
      rw [reportUnknown, reportUnknown, firstKey, ih restKeys]

theorem lookup?_replaced {name : String} (different : name ≠ "log_level") :
    lookup? name (before ++ (.text "log_level", second) :: after) =
      lookup? name (before ++ (.text "log_level", value) :: after) := by
  have otherKey : Document.text "log_level" ≠ .text name := by simpa using different.symm
  rw [Document.lookup?_append, Document.lookup?_append,
    Document.lookup?_cons_of_ne otherKey, Document.lookup?_cons_of_ne otherKey]

theorem lookup?_logLevel (absent : "log_level" ∉ names before) :
    lookup? "log_level" (before ++ (.text "log_level", value) :: after) = some value := by
  rw [Document.lookup?_append, Document.lookup?_eq_none_of_not_mem absent,
    Document.lookup?_cons_self, Option.none_or]

theorem setting_logLevel (absent : "log_level" ∉ names before) :
    setting asText "" (before ++ (.text "log_level", value) :: after) "log_level" =
      asText "log_level" (some value) := by
  rw [setting, lookup?_logLevel absent]
  rfl

/-- Documents that differ in the log level are decoded alike. -/
theorem alike_ofDocument (absent : "log_level" ∉ names before) (chosen : ChoosesLevel value)
    (chosenToo : ChoosesLevel second) :
    Reported.Alike (SameButLevel SettlesKnown)
      (ofDocument (.map (before ++ (.text "log_level", value) :: after)))
      (ofDocument (.map (before ++ (.text "log_level", second) :: after))) := by
  obtain ⟨level, read, known⟩ := chosen
  obtain ⟨levelToo, readToo, knownToo⟩ := chosenToo
  have sameKeys : (before ++ (Document.text "log_level", second) :: after).map (·.1) =
      (before ++ (.text "log_level", value) :: after).map (·.1) := by simp
  simp only [ofDocument, ofEntries]
  rw [reportUnknown_congr sameKeys, setting_logLevel absent, setting_logLevel absent, read,
    readToo]
  simp only [setting]
  rw [@lookup?_replaced before after value second "listener" (by decide),
    @lookup?_replaced before after value second "multi_port" (by decide),
    @lookup?_replaced before after value second "pool" (by decide),
    @lookup?_replaced before after value second "management" (by decide),
    @lookup?_replaced before after value second "nodes" (by decide),
    @lookup?_replaced before after value second "mode" (by decide),
    @lookup?_replaced before after value second "nodes_file" (by decide)]
  apply Reported.Alike.bind_same
  intro _
  apply Reported.Alike.bind_same
  intro listener
  apply Reported.Alike.bind_same
  intro multiPort
  apply Reported.Alike.bind_same
  intro pool
  apply Reported.Alike.bind_same
  intro management
  apply Reported.Alike.bind_same
  intro items
  apply Reported.Alike.bind_same
  intro nodes
  apply Reported.Alike.bind_same
  intro mode
  apply Reported.Alike.bind_same
  intro nodesFile
  exact .pure ⟨rfl, known, knownToo⟩

end Decoding

section Resolving

variable {tree again : FileTree} {config other : Config}

theorem listedNodes_congr
    (sameList : NodeList.readText again config.nodesFile =
      NodeList.readText tree config.nodesFile) (level : String) :
    listedNodes again { config with logLevel := level } = listedNodes tree config := by
  simp only [listedNodes, NodeList.read, sameList]

theorem alike_includeListed
    (sameList : NodeList.readText again config.nodesFile =
      NodeList.readText tree config.nodesFile) (level : String) :
    Reported.Alike (fun complete other => other = { complete with logLevel := level })
      (includeListed tree config) (includeListed again { config with logLevel := level }) := by
  rw [includeListed, includeListed, listedNodes_congr sameList]
  apply Reported.Alike.bind_same
  intro nodes
  exact .pure rfl

/-- Settling the nodes does not look at the log level. -/
theorem resolveNodes_relevelled (config : Config) (level : String) :
    ∃ final, resolveNodes { config with logLevel := level } =
      { resolveNodes config with
        config := { (resolveNodes config).config with logLevel := final } } := by
  simp only [resolveNodes]
  split
  · exact ⟨level, rfl⟩
  · have sameSettings : nodeSettings { config with logLevel := level } = nodeSettings config :=
      rfl
    rw [sameSettings]
    split
    · exact ⟨level, rfl⟩
    · exact ⟨orText level defaultLogLevel, rfl⟩

/-- Resolving does not look at the log level. -/
theorem resolve_relevelled
    (sameList : NodeList.readText again config.nodesFile =
      NodeList.readText tree config.nodesFile) (level : String) :
    ∃ final, resolve again { config with logLevel := level } =
      { resolve tree config with
        config := { (resolve tree config).config with logLevel := final } } := by
  simp only [resolve]
  cases mode? config.mode with
  | none => exact ⟨level, rfl⟩
  | some mode =>
      have alike : Reported.Alike _ (includeListed tree (settle mode config))
          (includeListed again (settle mode { config with logLevel := level })) :=
        @alike_includeListed tree again (settle mode config) sameList level
      dsimp only
      generalize includeListed tree (settle mode config) = included at alike ⊢
      generalize includeListed again _ = includedToo at alike ⊢
      cases alike with
      | @ok records complete _ isOther =>
          subst isOther
          obtain ⟨final, settled⟩ := resolveNodes_relevelled complete level
          dsimp only
          exact ⟨final, by rw [settled]⟩
      | error records fault => exact ⟨level, rfl⟩

theorem logLevel_of_resolve (success : (resolve tree config).fault = none) :
    (resolve tree config).config.logLevel = orText config.logLevel defaultLogLevel := by
  obtain ⟨mode, nodes, resolvable⟩ := exists_resolvable_of_success success
  rw [(resolve_of_resolvable resolvable).1, resolvedConfig]

theorem alike_resolved (apart : SameButLevel SettlesKnown config other)
    (sameList : NodeList.readText again config.nodesFile =
      NodeList.readText tree config.nodesFile) :
    Reported.Alike (SameButLevel IsLevelName) (resolved tree config) (resolved again other) := by
  obtain ⟨isOther, known, knownToo⟩ := apart
  generalize other.logLevel = level at isOther knownToo
  subst isOther
  obtain ⟨final, settled⟩ := resolve_relevelled sameList level
  have records_eq : (resolve again { config with logLevel := level }).records =
      (resolve tree config).records := by rw [settled]
  have fault_eq : (resolve again { config with logLevel := level }).fault =
      (resolve tree config).fault := by rw [settled]
  simp only [resolved, fault_eq, records_eq]
  cases failed : (resolve tree config).fault with
  | some fault => exact .error _ _
  | none =>
      refine .ok _ ⟨by rw [settled], ?_, ?_⟩
      · rw [logLevel_of_resolve failed]
        exact known
      · rw [logLevel_of_resolve (fault_eq.trans failed)]
        exact knownToo

end Resolving

section Loading

variable {tree again : FileTree} {path : String} {document : Document}

theorem present_of_holds (holds : Holds tree path document) : present tree path = .ok true := by
  obtain ⟨bytes, -, read, -⟩ := holds
  simp only [present, find_of_read read]

theorem readDocument_of_holds (holds : Holds tree path document) :
    readDocument tree path = pure document := by
  obtain ⟨bytes, written, read, parsed, rfl⟩ := holds
  simp only [readDocument, read, parsed]
  cases written with
  | none => rfl
  | some inner => cases inner <;> rfl

/-- Loading a file with a document decodes and resolves the document. -/
theorem loadTidy_of_holds (holds : Holds tree path document) :
    loadTidy tree path = do
      Reported.report .config .info ("Loading configuration from: " ++ path)
      let decoded ← (ofDocument document).mapFault .decode
      let config ← resolved tree { decoded with source := some path }
      Reported.report .config .info
        ("Configuration loaded: mode=" ++ config.mode ++ ", " ++
          toString config.nodes.length ++ " nodes")
      return config := by
  simp only [loadTidy, present_of_holds holds, readDocument_of_holds holds]
  rfl

/-- Two files with documents that differ in the log level are loaded alike, if the
node list is the same. -/
theorem alike_loadTidy {before after : Entries} {value second : Document}
    (absent : "log_level" ∉ names before) (chosen : ChoosesLevel value)
    (chosenToo : ChoosesLevel second)
    (holds : Holds tree path (.map (before ++ (.text "log_level", value) :: after)))
    (holdsToo : Holds again path (.map (before ++ (.text "log_level", second) :: after)))
    (sameList : ∀ decoded,
      (ofDocument (.map (before ++ (.text "log_level", value) :: after))).outcome = .ok decoded →
        NodeList.readText again decoded.nodesFile = NodeList.readText tree decoded.nodesFile) :
    Reported.Alike (SameButLevel IsLevelName) (loadTidy tree path) (loadTidy again path) := by
  rw [loadTidy_of_holds holds, loadTidy_of_holds holdsToo]
  apply Reported.Alike.bind_same
  intro _
  apply ((alike_ofDocument absent chosen chosenToo).mapFault _).bind
  intro decoded decodedToo accepted apart
  rw [Reported.outcome_mapFault, Log.mapError_eq_ok_iff] at accepted
  have sourced : SameButLevel SettlesKnown { decoded with source := some path }
      { decodedToo with source := some path } :=
    ⟨by rw [apart.same], apart.level, apart.otherLevel⟩
  apply (alike_resolved sourced (sameList decoded accepted)).bind
  intro config configToo _ settled
  -- The last record shows the mode and the number of nodes, which are the same.
  rw [settled.same]
  apply Reported.Alike.bind_same
  intro _
  exact .pure ⟨rfl, settled.level, settled.otherLevel⟩

end Loading

end RelayPool.Config
