import RelayPool.Config.Load
import RelayPool.Proofs.Log.Outcome

/-!
# How loading ends

Loading looks for a file, reads it as a document, decodes the document and
resolves what it holds.  Each of these can fail, and a load fails in exactly
the ways that the rules of `LoadFails` list; else it gives the resolved
configuration.
-/

namespace RelayPool.Config

open Log (Reported)

/-- The kinds of faults that callers tell apart.  They handle those of the
first two kinds and none that is foreign. -/
inductive FaultKind
  | missing
  | configuration
  | foreign
  deriving DecidableEq

def LoadFault.kind : LoadFault → FaultKind
  | .missing _ => .missing
  | .unreachable _ _ | .value _ | .decode .tooManyDigits => .foreign
  | .unreadable _ _ | .malformed _ | .decode _ | .resolve _ => .configuration

theorem FaultKind.handled_iff (kind : FaultKind) :
    kind = .missing ∨ kind = .configuration ↔ kind ≠ .foreign := by
  cases kind <;> simp

/-- What a file holds; one without a document holds an empty mapping. -/
def documentOf : Option Document → Document
  | none | some .null => .map []
  | some document => document

/-- The file at a path holds a document. -/
def Holds (tree : FileTree) (path : String) (document : Document) : Prop :=
  ∃ bytes written, tree.read path = .ok bytes ∧
    (Yaml.Source.ofBytes bytes).value? = .ok written ∧ documentOf written = document

/-- The ways in which a load fails.  Nothing at a path, and a path that cannot
be looked up, are told apart from a file that cannot be read. -/
inductive LoadFails (tree : FileTree) (path : String) : LoadFault → Prop
  | unreachable (tooLong : tree.find path = .error .nameTooLong) :
      LoadFails tree path (.unreachable path .nameTooLong)
  | missing {fault : FileFault} (absent : tree.find path = .error fault)
      (reachable : fault ≠ .nameTooLong) :
      LoadFails tree path (.missing path)
  | directory (found : tree.find path = .ok .directory) :
      LoadFails tree path (.unreadable path (.file path .isDirectory))
  | encoding {bytes : List UInt8} {fault : Text.Utf8.Fault}
      (read : tree.read path = .ok bytes)
      (undecodable : (Yaml.Source.ofBytes bytes).value? = .error (.encoding fault)) :
      LoadFails tree path (.unreadable path (.encoding fault))
  | malformed {bytes : List UInt8} (read : tree.read path = .ok bytes)
      (malformed : (Yaml.Source.ofBytes bytes).value? = .error .malformed) :
      LoadFails tree path (.malformed path)
  | value {bytes : List UInt8} {fault : Yaml.ValueFault}
      (read : tree.read path = .ok bytes)
      (valueless : (Yaml.Source.ofBytes bytes).value? = .error (.value fault)) :
      LoadFails tree path (.value fault)
  | decode {document : Document} {fault : DecodeFault} (holds : Holds tree path document)
      (refused : (ofDocument document).outcome = .error fault) :
      LoadFails tree path (.decode fault)
  | resolve {document : Document} {decoded : Config} {fault : ResolveFault}
      (holds : Holds tree path document)
      (accepted : (ofDocument document).outcome = .ok decoded)
      (failed : (resolve tree { decoded with source := some path }).fault = some fault) :
      LoadFails tree path (.resolve fault)

/-- A load succeeds with a configuration. -/
structure Loads (tree : FileTree) (path : String) (document : Document)
    (decoded config : Config) : Prop where
  holds : Holds tree path document
  accepted : (ofDocument document).outcome = .ok decoded
  resolved : (resolve tree { decoded with source := some path }).fault = none
  result : (resolve tree { decoded with source := some path }).config = config

section Stages

variable {tree : FileTree} {path : String}

theorem find_of_read {bytes : List UInt8} (read : tree.read path = .ok bytes) :
    tree.find path = .ok (.file bytes) := by
  unfold FileTree.read at read
  split at read
  · next content found =>
      obtain rfl := Except.ok.inj read
      exact found
  · cases read
  · cases read

theorem read_of_find {bytes : List UInt8} (found : tree.find path = .ok (.file bytes)) :
    tree.read path = .ok bytes := by
  simp only [FileTree.read, found]

/-- The document of a file, or the fault in the file. -/
theorem outcome_readDocument :
    (readDocument tree path).outcome =
      match tree.read path with
      | .error fault => .error (.unreadable path (.file path fault))
      | .ok bytes =>
          match (Yaml.Source.ofBytes bytes).value? with
          | .ok written => .ok (documentOf written)
          | .error (.encoding fault) => .error (.unreadable path (.encoding fault))
          | .error (.value fault) => .error (.value fault)
          | .error .malformed => .error (.malformed path) := by
  unfold readDocument
  cases tree.read path with
  | error fault => rfl
  | ok bytes =>
      dsimp only
      generalize (Yaml.Source.ofBytes bytes).value? = parsed
      rcases parsed with (_ | _ | _) | (_ | document)
      · rfl
      · rfl
      · rfl
      · rfl
      · cases document <;> rfl

theorem outcome_resolved (config : Config) :
    (resolved tree config).outcome =
      match (resolve tree config).fault with
      | some fault => .error (.resolve fault)
      | none => .ok (resolve tree config).config := by
  unfold resolved
  split <;> simp_all

/-- Loading where nothing can be found. -/
theorem outcome_loadTidy_of_absent {fault : FileFault}
    (absent : tree.find path = .error fault) :
    (loadTidy tree path).outcome =
      .error (if fault = .nameTooLong then .unreachable path fault else .missing path) := by
  simp only [loadTidy, Reported.outcome_bind, Reported.outcome_report,
    Reported.outcome_ofExcept, present, absent]
  cases fault <;> rfl

/-- Loading where something is found. -/
theorem outcome_loadTidy_of_found {entry : FileEntry} (found : tree.find path = .ok entry) :
    (loadTidy tree path).outcome =
      match (readDocument tree path).outcome with
      | .error fault => .error fault
      | .ok document =>
          match (ofDocument document).outcome with
          | .error fault => .error (.decode fault)
          | .ok decoded => (resolved tree { decoded with source := some path }).outcome := by
  simp only [loadTidy, Reported.outcome_bind, Reported.outcome_report,
    Reported.outcome_ofExcept, present, found, Log.mapError_ok]
  simp only [Bool.not_true, Bool.false_eq_true, ite_false, Reported.outcome_bind,
    Reported.outcome_mapFault, Reported.outcome_report, Reported.outcome_pure]
  cases (readDocument tree path).outcome with
  | error fault => rfl
  | ok document =>
      dsimp only
      cases (ofDocument document).outcome with
      | error fault => rfl
      | ok decoded =>
          simp only [Log.mapError_ok]
          cases (resolved tree { decoded with source := some path }).outcome <;> rfl

theorem outcome_loadTidy_of_holds {document : Document} (holds : Holds tree path document) :
    (loadTidy tree path).outcome =
      match (ofDocument document).outcome with
      | .error fault => .error (.decode fault)
      | .ok decoded => (resolved tree { decoded with source := some path }).outcome := by
  obtain ⟨bytes, written, read, parsed, rfl⟩ := holds
  rw [outcome_loadTidy_of_found (find_of_read read), outcome_readDocument]
  simp only [read, parsed]

theorem outcome_of_loadFails {fault : LoadFault} (failing : LoadFails tree path fault) :
    (loadTidy tree path).outcome = .error fault := by
  cases failing with
  | unreachable tooLong => rw [outcome_loadTidy_of_absent tooLong, if_pos rfl]
  | missing absent reachable => rw [outcome_loadTidy_of_absent absent, if_neg reachable]
  | directory found =>
      rw [outcome_loadTidy_of_found found, outcome_readDocument]
      simp only [FileTree.read, found]
  | encoding read undecodable =>
      rw [outcome_loadTidy_of_found (find_of_read read), outcome_readDocument]
      simp only [read, undecodable]
  | malformed read malformed =>
      rw [outcome_loadTidy_of_found (find_of_read read), outcome_readDocument]
      simp only [read, malformed]
  | value read valueless =>
      rw [outcome_loadTidy_of_found (find_of_read read), outcome_readDocument]
      simp only [read, valueless]
  | decode holds refused =>
      rw [outcome_loadTidy_of_holds holds]
      simp only [refused]
  | resolve holds accepted failed =>
      rw [outcome_loadTidy_of_holds holds]
      simp only [accepted, outcome_resolved, failed]

theorem outcome_of_loads {document : Document} {decoded config : Config}
    (loads : Loads tree path document decoded config) :
    (loadTidy tree path).outcome = .ok config := by
  rw [outcome_loadTidy_of_holds loads.holds]
  simp only [loads.accepted, outcome_resolved, loads.resolved, loads.result]

theorem exists_loads_or_loadFails_of_holds {document : Document}
    (holds : Holds tree path document) :
    (∃ decoded config, Loads tree path document decoded config) ∨
      ∃ fault, LoadFails tree path fault := by
  cases accepted : (ofDocument document).outcome with
  | error fault => exact .inr ⟨_, .decode holds accepted⟩
  | ok decoded =>
      cases failed : (resolve tree { decoded with source := some path }).fault with
      | some fault => exact .inr ⟨_, .resolve holds accepted failed⟩
      | none => exact .inl ⟨decoded, _, holds, accepted, failed, rfl⟩

/-- Every load has a result or one of the listed faults. -/
theorem exists_loads_or_loadFails (tree : FileTree) (path : String) :
    (∃ document decoded config, Loads tree path document decoded config) ∨
      ∃ fault, LoadFails tree path fault := by
  cases found : tree.find path with
  | error fault =>
      by_cases tooLong : fault = .nameTooLong
      · exact .inr ⟨_, .unreachable (tooLong ▸ found)⟩
      · exact .inr ⟨_, .missing found tooLong⟩
  | ok entry =>
      cases entry with
      | directory => exact .inr ⟨_, .directory found⟩
      | file bytes =>
          have read := read_of_find found
          cases parsed : (Yaml.Source.ofBytes bytes).value? with
          | error fault =>
              cases fault with
              | encoding fault => exact .inr ⟨_, .encoding read parsed⟩
              | malformed => exact .inr ⟨_, .malformed read parsed⟩
              | value fault => exact .inr ⟨_, .value read parsed⟩
          | ok written =>
              have holds : Holds tree path (documentOf written) :=
                ⟨bytes, written, read, parsed, rfl⟩
              rcases exists_loads_or_loadFails_of_holds holds with loads | failing
              · exact .inl ⟨_, loads⟩
              · exact .inr failing

/-- A load fails with exactly the faults of the listed rules. -/
theorem outcome_loadTidy_eq_error_iff {fault : LoadFault} :
    (loadTidy tree path).outcome = .error fault ↔ LoadFails tree path fault := by
  constructor
  · intro ended
    rcases exists_loads_or_loadFails tree path with
      ⟨document, decoded, config, loads⟩ | ⟨first, failing⟩
    · rw [outcome_of_loads loads] at ended
      cases ended
    · rw [outcome_of_loadFails failing] at ended
      obtain rfl := Except.error.inj ended
      exact failing
  · exact outcome_of_loadFails

theorem outcome_loadTidy_eq_ok_iff {config : Config} :
    (loadTidy tree path).outcome = .ok config ↔
      ∃ document decoded, Loads tree path document decoded config := by
  constructor
  · intro ended
    rcases exists_loads_or_loadFails tree path with
      ⟨document, decoded, found, loads⟩ | ⟨fault, failing⟩
    · rw [outcome_of_loads loads] at ended
      obtain rfl := Except.ok.inj ended
      exact ⟨document, decoded, loads⟩
    · rw [outcome_of_loadFails failing] at ended
      cases ended
  · rintro ⟨document, decoded, loads⟩
    exact outcome_of_loads loads

end Stages

end RelayPool.Config
