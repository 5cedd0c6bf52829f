import RelayPool.Config.Decode
import RelayPool.Proofs.Log.Outcome

/-!
# Decoded configurations

What each part of a decoded configuration was read from.  Every port that a
document gives to a configuration is checked while it is read, so all ports of a
decoded configuration are in range.
-/

namespace RelayPool.Config

open Log

/-- The parts of a configuration as they are read from the entries of a document. -/
structure PartsRead (entries : Entries) (config : Config) : Prop where
  listener :
    (readPart listenerKeys listenerOfEntries "listener"
      (Document.lookup? "listener" entries)).outcome = .ok config.listener
  multiPort :
    (readPart multiPortKeys multiPortOfEntries "multi_port"
      (Document.lookup? "multi_port" entries)).outcome = .ok config.multiPort
  pool :
    (readPart poolKeys poolOfEntries "pool"
      (Document.lookup? "pool" entries)).outcome = .ok config.pool
  management :
    (readPart managementKeys managementOfEntries "management"
      (Document.lookup? "management" entries)).outcome = .ok config.management
  nodes :
    ∃ items, asItems "nodes" (Document.lookup? "nodes" entries) = .ok items ∧
      (readNodes 0 items).outcome = .ok config.nodes
  mode : setting asText "" entries "mode" = .ok config.mode
  nodesFile : setting asText "" entries "nodes_file" = .ok config.nodesFile
  logLevel : setting asText "" entries "log_level" = .ok config.logLevel

theorem partsRead_of_ofEntries {entries : Entries} {config : Config}
    (decoded : (ofEntries entries).outcome = .ok config) : PartsRead entries config := by
  simp only [ofEntries, Reported.outcome_bind_eq_ok_iff, Reported.outcome_ofExcept] at decoded
  obtain ⟨_, -, _, listener, _, multiPort, _, pool, _, management, items, asked, _, nodes,
    _, mode, _, nodesFile, _, logLevel, result⟩ := decoded
  cases result
  exact { listener, multiPort, pool, management, mode, nodesFile, logLevel,
          nodes := ⟨items, asked, nodes⟩ }

/-- A port as a configuration may hold it before it is resolved; zero stands
for one that is open. -/
def IsPort (port : Int) : Prop :=
  0 ≤ port ∧ port ≤ maxPort

theorem isPort_zero : IsPort 0 :=
  ⟨Int.le_refl 0, by decide⟩

/-- All ports of a configuration are in range. -/
structure PortsInRange (config : Config) : Prop where
  listener : IsPort config.listener.port
  multiPort : IsPort config.multiPort.basePort
  nodes : ∀ node ∈ config.nodes, IsPort node.port

theorem isPort_of_asPort {key : String} {value : Option Document} {port : Int}
    (read : asPort key value = .ok port) : IsPort port := by
  obtain ⟨written, -, checked⟩ := bind_eq_ok_iff.mp read
  split at checked
  · next inRange =>
      obtain rfl := pure_eq_ok_iff.mp checked
      exact inRange
  · split at checked <;> exact (throw_ne_ok checked).elim

theorem isPort_of_listenerOfEntries {scope : String} {entries : Entries}
    {listener : Listener} (read : listenerOfEntries scope entries = .ok listener) :
    IsPort listener.port := by
  simp only [listenerOfEntries, bind_eq_ok_iff, pure_eq_ok_iff] at read
  obtain ⟨_, -, port, readPort, _, -, _, -, rfl⟩ := read
  exact isPort_of_asPort readPort

theorem isPort_of_multiPortOfEntries {scope : String} {entries : Entries}
    {multiPort : MultiPort} (read : multiPortOfEntries scope entries = .ok multiPort) :
    IsPort multiPort.basePort := by
  simp only [multiPortOfEntries, bind_eq_ok_iff, pure_eq_ok_iff] at read
  obtain ⟨_, -, port, readPort, _, -, _, -, rfl⟩ := read
  exact isPort_of_asPort readPort

theorem isPort_of_nodeOfEntries {scope : String} {entries : Entries} {node : Node}
    (read : nodeOfEntries scope entries = .ok node) : IsPort node.port := by
  simp only [nodeOfEntries, bind_eq_ok_iff, pure_eq_ok_iff] at read
  obtain ⟨_, -, _, -, port, readPort, _, -, _, -, rfl⟩ := read
  exact isPort_of_asPort readPort

theorem exists_entries_of_readPart {α : Type} {known : List String}
    {read : String → Entries → Except DecodeFault α} {scope : String}
    {value : Option Document} {part : α}
    (done : (readPart known read scope value).outcome = .ok part) :
    ∃ entries, read scope entries = .ok part := by
  obtain ⟨entries, -, readEntries⟩ := Reported.outcome_bind_eq_ok_iff.mp done
  exact ⟨entries, readEntries⟩

theorem isPort_of_readNodes {index : Nat} {items : List Document} {nodes : List Node}
    (read : (readNodes index items).outcome = .ok nodes) :
    ∀ node ∈ nodes, IsPort node.port := by
  induction items generalizing index nodes with
  | nil =>
      cases read
      simp
  | cons item rest ih =>
      simp only [readNodes, Reported.outcome_bind_eq_ok_iff] at read
      obtain ⟨first, readFirst, others, readOthers, result⟩ := read
      cases result
      obtain ⟨entries, fromEntries⟩ := exists_entries_of_readPart readFirst
      intro node member
      rcases List.mem_cons.mp member with rfl | later
      · exact isPort_of_nodeOfEntries fromEntries
      · exact ih readOthers node later

/-- All ports of a configuration that a document holds are in range. -/
theorem portsInRange_of_ofDocument {document : Document} {config : Config}
    (decoded : (ofDocument document).outcome = .ok config) : PortsInRange config := by
  cases document with
  | map entries =>
      have parts := partsRead_of_ofEntries decoded
      obtain ⟨_, fromListener⟩ := exists_entries_of_readPart parts.listener
      obtain ⟨_, fromMultiPort⟩ := exists_entries_of_readPart parts.multiPort
      obtain ⟨_, -, readAll⟩ := parts.nodes
      exact {
        listener := isPort_of_listenerOfEntries fromListener
        multiPort := isPort_of_multiPortOfEntries fromMultiPort
        nodes := isPort_of_readNodes readAll }
  | _ => cases decoded

end RelayPool.Config
