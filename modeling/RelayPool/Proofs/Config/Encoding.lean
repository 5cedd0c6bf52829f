import RelayPool.Proofs.Config.SchemaChecks

/-!
# Configurations as documents

A configuration is written as a document with every setting under its key.  The
document reads back as the same configuration, and no key of it is unknown.
-/

namespace RelayPool

open Log (Reported)

def Listener.toDocument (listener : Listener) : Document :=
  .record
    [("address", .text listener.address), ("port", .int listener.port),
      ("username", .text listener.username), ("password", .text listener.password)]

def MultiPort.toDocument (multiPort : MultiPort) : Document :=
  .record
    [("address", .text multiPort.address), ("base_port", .int multiPort.basePort),
      ("username", .text multiPort.username), ("password", .text multiPort.password)]

def Pool.toDocument (pool : Pool) : Document :=
  .record
    [("mode", .text pool.mode), ("failure_threshold", .int pool.failureThreshold),
      ("blacklist_duration", .span pool.blacklistDuration)]

/-- A truth value that may be open. -/
def Document.ofTruthValue : Option Bool → Document
  | none => .null
  | some value => .bool value

def Management.toDocument (management : Management) : Document :=
  .record
    [("enabled", .ofTruthValue management.enabled), ("listen", .text management.listen),
      ("probe_target", .text management.probeTarget)]

def Node.toDocument (node : Node) : Document :=
  .record
    [("name", .text node.name), ("uri", .text node.uri), ("port", .int node.port),
      ("username", .text node.username), ("password", .text node.password)]

/-- The document that writes every setting of a configuration under its key. -/
def Config.toDocument (config : Config) : Document :=
  .record
    [("mode", .text config.mode), ("listener", config.listener.toDocument),
      ("multi_port", config.multiPort.toDocument), ("pool", config.pool.toDocument),
      ("management", config.management.toDocument),
      ("nodes", .list (config.nodes.map Node.toDocument)),
      ("nodes_file", .text config.nodesFile), ("log_level", .text config.logLevel)]

namespace Config

theorem asTruthValue_ofTruthValue (key : String) (value : Option Bool) :
    asTruthValue key (some (.ofTruthValue value)) = .ok value := by
  cases value <;> rfl

section Sections

variable {known : List String} {settings : List (String × Document)}

/-- Nothing is reported of a record whose names are all known. -/
theorem reportUnknown_record (scope : String)
    (allKnown : settings.all fun setting => known.contains setting.1) :
    reportUnknown known scope (settings.map fun setting => (.text setting.1, setting.2)) =
      .ok () := by
  induction settings with
  | nil => rfl
  | cons setting rest ih =>
      rw [List.all_cons, Bool.and_eq_true] at allKnown
      have firstKnown : isKnown known (.text setting.1) := allKnown.1
      rw [List.map_cons, reportUnknown, if_pos firstKnown]
      exact ih allKnown.2

theorem readPart_record {α : Type} {read : String → Entries → Except DecodeFault α}
    {scope : String} {part : α}
    (allKnown : settings.all fun setting => known.contains setting.1)
    (done : read scope (settings.map fun setting => (.text setting.1, setting.2)) =
      .ok part) :
    readPart known read scope (some (.record settings)) = .ok part := by
  have entriesRead : readSection known scope (some (.record settings)) =
      .ok (settings.map fun setting => (.text setting.1, setting.2)) := by
    change (reportUnknown known scope _ >>= fun _ => pure _) = _
    rw [reportUnknown_record scope allKnown]
    rfl
  rw [readPart, entriesRead]
  change Reported.ofExcept (read scope _) = _
  rw [done]
  rfl

theorem readPart_listener {listener : Listener} (scope : String)
    (inRange : IsPort listener.port) :
    readPart listenerKeys listenerOfEntries scope (some listener.toDocument) =
      .ok listener := by
  apply readPart_record
  · rfl
  · change (asPort _ (some (.int listener.port)) >>= _) = _
    rw [asPort_of_inRange _ inRange]
    rfl

theorem readPart_multiPort {multiPort : MultiPort} (scope : String)
    (inRange : IsPort multiPort.basePort) :
    readPart multiPortKeys multiPortOfEntries scope (some multiPort.toDocument) =
      .ok multiPort := by
  apply readPart_record
  · rfl
  · change (asPort _ (some (.int multiPort.basePort)) >>= _) = _
    rw [asPort_of_inRange _ inRange]
    rfl

theorem readPart_pool (pool : Pool) (scope : String) :
    readPart poolKeys poolOfEntries scope (some pool.toDocument) = .ok pool := by
  apply readPart_record
  · rfl
  · rfl

theorem readPart_management (management : Management) (scope : String) :
    readPart managementKeys managementOfEntries scope (some management.toDocument) =
      .ok management := by
  apply readPart_record
  · rfl
  · change (asTruthValue _ (some (.ofTruthValue management.enabled)) >>= _) = _
    rw [asTruthValue_ofTruthValue]
    rfl

theorem readPart_node {node : Node} (scope : String) (inRange : IsPort node.port) :
    readPart nodeKeys nodeOfEntries scope (some node.toDocument) = .ok node := by
  apply readPart_record
  · rfl
  · change (asPort _ (some (.int node.port)) >>= _) = _
    rw [asPort_of_inRange _ inRange]
    rfl

theorem readNodes_map_toDocument {nodes : List Node} (index : Nat)
    (inRange : ∀ node ∈ nodes, IsPort node.port) :
    readNodes index (nodes.map Node.toDocument) = .ok nodes := by
  induction nodes generalizing index with
  | nil => rfl
  | cons node rest ih =>
      obtain ⟨firstInRange, restInRange⟩ := List.forall_mem_cons.mp inRange
      rw [List.map_cons, readNodes, readPart_node _ firstInRange]
      change (readNodes (index + 1) _ >>= fun nodes => pure (node :: nodes)) = _
      rw [ih (index + 1) restInRange]
      rfl

end Sections

/-- A configuration with its ports in range is read back from the document that
is written for it, without a record. -/
theorem ofDocument_toDocument {config : Config} (inRange : PortsInRange config) :
    ofDocument config.toDocument = ⟨[], .ok { config with source := none }⟩ := by
  have listenerRead := readPart_listener "listener" inRange.listener
  have multiPortRead := readPart_multiPort "multi_port" inRange.multiPort
  have poolRead := readPart_pool config.pool "pool"
  have managementRead := readPart_management config.management "management"
  have nodesRead := readNodes_map_toDocument 0 inRange.nodes
  rw [Config.toDocument, Document.record, ofDocument, ofEntries, reportUnknown_record "" rfl,
    Reported.ok_bind]
  change (readPart _ _ _ (some config.listener.toDocument) >>= _) = _
  rw [listenerRead, Reported.ok_bind]
  change (readPart _ _ _ (some config.multiPort.toDocument) >>= _) = _
  rw [multiPortRead, Reported.ok_bind]
  change (readPart _ _ _ (some config.pool.toDocument) >>= _) = _
  rw [poolRead, Reported.ok_bind]
  change (readPart _ _ _ (some config.management.toDocument) >>= _) = _
  rw [managementRead, Reported.ok_bind]
  change (readNodes 0 (config.nodes.map Node.toDocument) >>= _) = _
  rw [nodesRead, Reported.ok_bind]
  rfl

/-- Every setting differs from the others, and some are not what resolving would
leave. -/
def unresolvedConfig : Config where
  mode := " multi-port"
  listener := { address := "::1", port := 65535, username := "left", password := "right" }
  multiPort := { address := "", basePort := 28000, username := "upper", password := "lower" }
  pool := { mode := "random", failureThreshold := -3, blacklistDuration := ⟨-1500000⟩ }
  management := { enabled := some false, listen := ":0", probeTarget := "null" }
  nodes :=
    [{ name := "\n", uri := "", port := 0 },
      { name := "b", uri := "socks5://h:1", port := 2323, username := "1e3", password := "~" }]
  nodesFile := "list.txt"
  logLevel := "DEBUG"

theorem ofDocument_toDocument_unresolvedConfig :
    PortsInRange unresolvedConfig ∧
      ofDocument unresolvedConfig.toDocument = ⟨[], .ok unresolvedConfig⟩ := by
  have inRange : PortsInRange unresolvedConfig := {
    listener := ⟨by decide, by decide⟩
    multiPort := ⟨by decide, by decide⟩
    nodes := by
      have each : ∀ node ∈ unresolvedConfig.nodes, 0 ≤ node.port ∧ node.port ≤ maxPort := by
        decide
      exact each }
  exact ⟨inRange, ofDocument_toDocument inRange⟩

end Config

end RelayPool
