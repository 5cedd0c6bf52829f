import RelayPool.Proofs.Config.ResolveFaults
import RelayPool.Proofs.FileTree.Lookup
import RelayPool.Proofs.NodeList.Reading

/-!
# Missing files and broken ones

A load reads up to two files, and either may be missing or broken.  Only where nothing
is at the path of the configuration does it end as missing.  Every other fault of
either file is one of the configuration: it names the step that failed and keeps what
the step failed on.
-/

namespace RelayPool.Config

open FileTree (IsAt ComponentsFit TooLong)

/-- What a step of a load failed on: a file that is not read, a document that is not
well formed, or a text that is no duration. -/
inductive Cause
  | read (fault : ReadFault)
  | document
  | duration (fault : Duration.Fault)

def Cause.message : Cause → String
  | .read fault => fault.message
  | .document => malformedText
  | .duration fault => fault.message

/-- The cause that a fault keeps. -/
def LoadFault.cause? : LoadFault → Option Cause
  | .unreadable _ fault | .resolve (.nodeList _ fault) => some (.read fault)
  | .malformed _ => some .document
  | .decode (.duration _ fault) => some (.duration fault)
  | _ => none

/-- A load ends as one of a missing file. -/
def EndsMissing (outcome : Except LoadFault Config) : Prop :=
  ∃ fault, outcome = .error fault ∧ fault.kind = .missing

/-- A load ends with a fault of the configuration that has a cause: its message is a
beginning and the message of the cause. -/
def Wraps (outcome : Except LoadFault Config) (beginning : String) (cause : Cause) : Prop :=
  ∃ fault, outcome = .error fault ∧ fault.kind = .configuration ∧
    fault.cause? = some cause ∧ fault.message = beginning ++ cause.message

/-- The ways in which what is at the path of the configuration is not read. -/
inductive Unread (tree : FileTree) (path : String) : ReadFault → Prop
  | directory (isAt : IsAt tree path .directory) : Unread tree path (.file path .isDirectory)
  | encoding {bytes : List UInt8} {fault : Text.Utf8.Fault} (isAt : IsAt tree path (.file bytes))
      (undecodable : (Yaml.Source.ofBytes bytes).value? = .error (.encoding fault)) :
      Unread tree path (.encoding fault)

/-- The document at a path is not well formed. -/
def Malformed (tree : FileTree) (path : String) : Prop :=
  ∃ bytes, IsAt tree path (.file bytes) ∧
    (Yaml.Source.ofBytes bytes).value? = .error .malformed

/-- The document at a path is a configuration of a known mode that names a node list
file. -/
def NamesList (tree : FileTree) (path listed : String) : Prop :=
  ∃ bytes written decoded, IsAt tree path (.file bytes) ∧
    (Yaml.Source.ofBytes bytes).value? = .ok written ∧
    (ofDocument (documentOf written)).outcome = .ok decoded ∧
    decoded.mode ∈ modeNames ∧ decoded.nodesFile = listed ∧ listed ≠ ""

/-- The records of a load that ends at a document that is not well formed. -/
def malformedRecords (path : String) : List Log.Record :=
  [⟨.config, .info, "Loading configuration from: " ++ path⟩,
    ⟨.config, .error, "Invalid YAML in configuration: " ++ malformedText⟩]

/-- A load tells a missing file, a configuration that is not read, one that is not well
formed, and a node list that is not read apart. -/
structure ToldApart (tree : FileTree) (path : String) (loaded : Log.Reported LoadFault Config) :
    Prop where
  missing_iff : EndsMissing loaded.outcome ↔ ∀ entry, ¬ IsAt tree path entry
  unread : ∀ cause, Unread tree path cause →
    Wraps loaded.outcome ("read config " ++ path ++ ": ") (.read cause)
  malformed : Malformed tree path →
    Wraps loaded.outcome ("decode config " ++ path ++ ": ") .document ∧
      loaded.records = malformedRecords path
  listUnread : ∀ listed cause, NamesList tree path listed → NodeList.Unreadable tree listed cause →
    Wraps loaded.outcome ("load nodes from file " ++ Text.quoted listed ++ ": ") (.read cause)
  ofRead : ∀ fault cause, loaded.outcome = .error fault → fault.cause? = some (.read cause) →
    Unread tree path cause ∨
      ∃ listed, NamesList tree path listed ∧ NodeList.Unreadable tree listed cause

section Loads

variable {tree : FileTree} {path : String} {cause : ReadFault}

theorem endsMissing_iff :
    EndsMissing (loadTidy tree path).outcome ↔
      ∃ fault, tree.find path = .error fault ∧ fault ≠ .nameTooLong := by
  constructor
  · rintro ⟨fault, ended, isMissing⟩
    cases outcome_loadTidy_eq_error_iff.mp ended with
    | missing absent reachable => exact ⟨_, absent, reachable⟩
    | @decode _ fault _ _ => cases fault <;> cases isMissing
    | _ => cases isMissing
  · rintro ⟨fault, absent, reachable⟩
    exact ⟨_, outcome_of_loadFails (.missing absent reachable), rfl⟩

/-- Where a load ends as missing there is nothing. -/
theorem not_isAt_of_endsMissing (ended : EndsMissing (loadTidy tree path).outcome)
    (entry : FileEntry) : ¬ IsAt tree path entry := by
  obtain ⟨fault, absent, reachable⟩ := endsMissing_iff.mp ended
  intro isAt
  rcases FileTree.find_of_isAt isAt with found | refused
  · rw [absent] at found
    cases found
  · rw [absent] at refused
    exact reachable (Except.error.inj refused)

/-- Tidying keeps null characters, so such a path is not handed to the system. -/
theorem not_handed_of_null (null : '\x00' ∈ path.toList) (bytes : List UInt8) :
    ¬ FileTree.Handed (tidyPath path) bytes := by
  intro handed
  have kept := FileTree.mem_tidyPath null (by decide) (by decide)
  exact handed.noNull (null_mem_nameOfBytes (zero_mem_pathBytes kept handed.encoded))

theorem outcome_loadTidy_of_tooLong (fit : ComponentsFit path) (long : TooLong path) :
    (loadTidy tree path).outcome = .error (.unreachable path .nameTooLong) :=
  outcome_of_loadFails (.unreachable ((FileTree.find_eq_nameTooLong_iff tree fit).mpr long))

theorem read_of_isAt (fit : ComponentsFit path) (short : ¬ TooLong path) {bytes : List UInt8}
    (isAt : IsAt tree path (.file bytes)) : tree.read path = .ok bytes :=
  read_of_find ((FileTree.find_eq_ok_iff fit short).mpr isAt)

theorem records_loadTidy_of_malformed {bytes : List UInt8} (read : tree.read path = .ok bytes)
    (malformed : (Yaml.Source.ofBytes bytes).value? = .error .malformed) :
    (loadTidy tree path).records = malformedRecords path := by
  have isThere : present tree path = .ok true := by simp only [present, find_of_read read]
  have records_eq : (readDocument tree path).records =
      [⟨.config, .error, "Invalid YAML in configuration: " ++ malformedText⟩] := by
    simp only [readDocument, read, malformed, Log.Reported.records_bind,
      Log.Reported.outcome_report, Log.Reported.records_report]
    rfl
  have outcome_eq : (readDocument tree path).outcome = .error (.malformed path) := by
    simp only [outcome_readDocument, read, malformed]
  simp only [loadTidy, isThere, Log.Reported.records_bind, Log.Reported.outcome_report,
    Log.Reported.records_report, Log.Reported.outcome_ofExcept, Log.mapError_ok,
    Log.Reported.records_ofExcept, Bool.not_true, Bool.false_eq_true, if_false, outcome_eq,
    records_eq, malformedRecords, List.nil_append, List.singleton_append]

/-- A read fault behind the fault of a load is one of either file. -/
theorem unread_or_of_cause? {fault : LoadFault} (failing : LoadFails tree path fault)
    (kept : fault.cause? = some (.read cause)) :
    Unread tree path cause ∨
      ∃ listed, NamesList tree path listed ∧ NodeList.Unreadable tree listed cause := by
  cases failing with
  | directory found =>
      cases kept
      exact .inl (.directory (FileTree.isAt_of_find found))
  | encoding read undecodable =>
      cases kept
      exact .inl (.encoding (FileTree.isAt_of_find (find_of_read read)) undecodable)
  | @decode _ fault _ _ => cases fault <;> cases kept
  | resolve holds accepted failed =>
      -- Of the faults of resolving only that of the node list keeps a cause.
      cases (fault_eq_some_iff_firstFault tree _ _).mp failed with
      | nodeList known named unreadable =>
          cases kept
          obtain ⟨bytes, written, read, parsed, rfl⟩ := holds
          have isAt := FileTree.isAt_of_find (find_of_read read)
          exact .inr ⟨_, ⟨_, _, _, isAt, parsed, accepted, known, rfl, named⟩,
            NodeList.readText_eq_error_iff.mp unreadable⟩
      | _ => cases kept
  | _ => cases kept

end Loads

/-- A load of a path that is not too long tells its faults apart. -/
theorem toldApart_loadTidy (tree : FileTree) {path : String} (fit : ComponentsFit path)
    (short : ¬ TooLong path) : ToldApart tree path (loadTidy tree path) where
  missing_iff := by
    refine ⟨not_isAt_of_endsMissing, fun absent => endsMissing_iff.mpr ?_⟩
    cases found : tree.find path with
    | ok entry => exact absurd (FileTree.isAt_of_find found) (absent entry)
    | error fault =>
        -- A lookup that the system refuses would tell nothing of what is there.
        refine ⟨fault, rfl, fun tooLong => short ?_⟩
        rw [tooLong] at found
        exact (FileTree.find_eq_nameTooLong_iff tree fit).mp found
  unread := by
    rintro cause (isAt | ⟨isAt, undecodable⟩)
    · have found := (FileTree.find_eq_ok_iff fit short).mpr isAt
      exact ⟨_, outcome_of_loadFails (.directory found), rfl, rfl, rfl⟩
    · have read := read_of_isAt fit short isAt
      exact ⟨_, outcome_of_loadFails (.encoding read undecodable), rfl, rfl, rfl⟩
  malformed := by
    rintro ⟨bytes, isAt, malformed⟩
    have read := read_of_isAt fit short isAt
    exact ⟨⟨_, outcome_of_loadFails (.malformed read malformed), rfl, rfl, rfl⟩,
      records_loadTidy_of_malformed read malformed⟩
  listUnread := by
    rintro _ cause ⟨bytes, written, decoded, isAt, parsed, accepted, known, rfl, named⟩ unreadable
    have read := read_of_isAt fit short isAt
    have failed : (resolve tree { decoded with source := some path }).fault =
        some (.nodeList decoded.nodesFile cause) :=
      fault_of_firstFault (.nodeList known named (NodeList.readText_eq_error_iff.mpr unreadable))
    have failing := LoadFails.resolve ⟨bytes, written, read, parsed, rfl⟩ accepted failed
    exact ⟨_, outcome_of_loadFails failing, rfl, rfl, rfl⟩
  ofRead := by
    intro fault cause ended kept
    exact unread_or_of_cause? (outcome_loadTidy_eq_error_iff.mp ended) kept

end RelayPool.Config
