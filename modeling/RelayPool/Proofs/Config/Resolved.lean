import RelayPool.Proofs.Config.Decoding
import RelayPool.Proofs.Config.ListedNodes
import RelayPool.Proofs.Config.Loading
import RelayPool.Proofs.Config.ResolvedNodes
import RelayPool.Proofs.Text.Trimmed

/-!
# Resolved configurations

A configuration that has been loaded has nothing open and nothing out of
range, so whoever uses it does not have to look at its settings again.  The
ports rest on two checks: those that a document gives are checked while it is
read, and those that are assigned while nodes are settled.
-/

namespace RelayPool

/-- A port that can be bound. -/
def IsBindable (port : Int) : Prop :=
  1 ≤ port ∧ port ≤ Config.maxPort

instance (port : Int) : Decidable (IsBindable port) :=
  inferInstanceAs (Decidable (_ ∧ _))

/-- A node with nothing open but its credentials. -/
structure Node.Resolved (node : Node) : Prop where
  uri_ne_empty : node.uri ≠ ""
  uri_trimmed : Text.strip node.uri = node.uri
  name_ne_empty : node.name ≠ ""
  port_bindable : IsBindable node.port

/-- A configuration with nothing open but credentials. -/
structure Config.Resolved (config : Config) : Prop where
  mode_known : config.mode = poolMode ∨ config.mode = multiPortMode
  listenerAddress_ne_empty : config.listener.address ≠ ""
  listenerPort_bindable : IsBindable config.listener.port
  multiPortAddress_ne_empty : config.multiPort.address ≠ ""
  basePort_bindable : IsBindable config.multiPort.basePort
  poolMode_ne_empty : config.pool.mode ≠ ""
  failureThreshold_pos : 1 ≤ config.pool.failureThreshold
  blacklistDuration_pos : 0 < config.pool.blacklistDuration.microseconds
  enabled_settled : config.management.enabled ≠ none
  listen_ne_empty : config.management.listen ≠ ""
  probeTarget_ne_empty : config.management.probeTarget ≠ ""
  logLevel_ne_empty : config.logLevel ≠ ""
  nodes_ne_nil : config.nodes ≠ []
  nodes_resolved : ∀ node ∈ config.nodes, node.Resolved

namespace Config

section Defaults

theorem orText_ne_empty (text : String) {default : String} (given : default ≠ "") :
    orText text default ≠ "" := by
  by_cases empty : text = ""
  · simpa [orText, empty] using given
  · simp [orText, empty]

theorem isBindable_of_isPort {port : Int} (inRange : IsPort port) (given : port ≠ 0) :
    IsBindable port :=
  ⟨Int.lt_iff_le_and_ne.mpr ⟨inRange.1, given.symm⟩, inRange.2⟩

theorem isPort_of_isBindable {port : Int} (bindable : IsBindable port) : IsPort port :=
  ⟨by have := bindable.1; omega, bindable.2⟩

theorem isBindable_orPort {port default : Int} (inRange : IsPort port)
    (bindable : IsBindable default) : IsBindable (orPort port default) := by
  by_cases unset : port = 0
  · simpa [orPort, unset] using bindable
  · simpa [orPort, unset] using isBindable_of_isPort inRange unset

theorem settlePool_failureThreshold_pos (pool : Pool) :
    1 ≤ (settlePool pool).failureThreshold := by
  simp only [settlePool, defaultFailureThreshold]
  split_ifs <;> omega

theorem settlePool_blacklistDuration_pos (pool : Pool) :
    0 < (settlePool pool).blacklistDuration.microseconds := by
  simp only [settlePool]
  split_ifs with unset
  · decide
  · omega

end Defaults

section Nodes

variable {tree : FileTree} {config : Config} {raw : List Node}

theorem isBindable_firstPort (inRange : PortsInRange config) :
    IsBindable (firstPort config) :=
  isBindable_orPort inRange.multiPort (by decide)

/-- The ports of the merged nodes are in range, those of the node list file
being open. -/
theorem isPort_of_mem_mergedNodes (inRange : PortsInRange config)
    (merged : mergedNodes tree config = .ok raw) :
    ∀ node ∈ raw, IsPort node.port := by
  obtain ⟨listed, found, rfl⟩ := mergedNodes_eq_ok_iff.mp merged
  intro node member
  rcases List.mem_append.mp member with inline | inList
  · exact inRange.nodes node inline
  · rw [(eq_uri_of_mem_listed found inList).1]
    exact isPort_zero

theorem firstText_ne_empty {texts : List String} (text : String) (member : text ∈ texts)
    (given : text ≠ "") : firstText texts ≠ "" := by
  cases found : texts.find? fun text => text ≠ "" with
  | none => exact absurd given (by simpa using List.find?_eq_none.mp found text member)
  | some first =>
      rw [firstText, found]
      simpa using List.find?_some found

/-- A node that the pass over the nodes has settled is resolved.  Its port was
given, or it is the next automatic one, which is in range as the node did not
block the pass. -/
theorem resolved_of_settledFrom {resolved : Config} {index : Nat} {node final : Node}
    (inRange : PortsInRange config) (portInRange : IsPort node.port)
    (free : ¬ Blocked (firstPort config + openPorts (raw.take index)) node)
    (settled : SettledFrom config resolved raw index node final) : final.Resolved where
  uri_ne_empty := by
    rw [settled.uri_eq]
    exact (not_or.mp free).1
  uri_trimmed := by rw [settled.uri_eq, Text.strip_strip]
  name_ne_empty := by
    rw [settled.name_eq]
    refine firstText_ne_empty ("node-" ++ toString index) (by simp) ?_
    intro empty
    simpa using congrArg String.toList empty
  port_bindable := by
    rw [settled.port_eq]
    split_ifs with given
    · exact isBindable_of_isPort portInRange given
    · have available : ¬ maxPort < firstPort config + openPorts (raw.take index) :=
        fun exhausted => free (.inr ⟨not_not.mp given, exhausted⟩)
      have first := (isBindable_firstPort inRange).1
      exact ⟨by omega, by omega⟩

end Nodes

/-- Resolving leaves nothing open in a configuration whose ports are in
range. -/
theorem resolved_of_resolve {tree : FileTree} {config : Config}
    (inRange : PortsInRange config) (success : (resolve tree config).fault = none) :
    (resolve tree config).config.Resolved := by
  obtain ⟨mode, raw, resolvable⟩ := exists_resolvable_of_success success
  rw [(resolve_of_resolvable resolvable).1]
  exact {
    mode_known := eq_poolMode_or_multiPortMode resolvable.supported
    listenerAddress_ne_empty := orText_ne_empty _ (by decide)
    listenerPort_bindable := isBindable_orPort inRange.listener (by decide)
    multiPortAddress_ne_empty := orText_ne_empty _ (by decide)
    basePort_bindable := isBindable_firstPort inRange
    poolMode_ne_empty := orText_ne_empty _ (by decide)
    failureThreshold_pos := settlePool_failureThreshold_pos config.pool
    blacklistDuration_pos := settlePool_blacklistDuration_pos config.pool
    enabled_settled := Option.some_ne_none _
    listen_ne_empty := orText_ne_empty _ (by decide)
    probeTarget_ne_empty := orText_ne_empty _ (by decide)
    logLevel_ne_empty := orText_ne_empty _ (by decide)
    nodes_ne_nil := by
      rw [← List.length_pos_iff, resolvedConfig, length_settledNodes]
      exact List.length_pos_iff.mpr resolvable.nonempty
    nodes_resolved := by
      intro final member
      obtain ⟨index, found⟩ := List.mem_iff_getElem?.mp member
      rw [resolvedConfig, getElem?_settledNodes, Nat.zero_add,
        Option.map_eq_some_iff] at found
      obtain ⟨node, stood, rfl⟩ := found
      refine resolved_of_settledFrom inRange ?_ ?_
        (settledFrom_settledNode mode config raw index node)
      · exact isPort_of_mem_mergedNodes inRange resolvable.merged node
          (List.mem_of_getElem? stood)
      · exact fun blocked => resolvable.clear index ⟨node, stood, blocked⟩ }

/-- A decoded configuration is resolved whatever file it came from. -/
theorem resolved_of_document {tree : FileTree} {document : Document} {decoded : Config}
    {source : Option String} (accepted : (ofDocument document).outcome = .ok decoded)
    (success : (resolve tree { decoded with source }).fault = none) :
    (resolve tree { decoded with source }).config.Resolved := by
  have inRange := portsInRange_of_ofDocument accepted
  exact resolved_of_resolve ⟨inRange.listener, inRange.multiPort, inRange.nodes⟩ success

theorem resolved_of_loads {tree : FileTree} {path : String} {document : Document}
    {decoded config : Config} (loads : Loads tree path document decoded config) :
    config.Resolved :=
  loads.result ▸ resolved_of_document loads.accepted loads.resolved

/-- Whatever is loaded is resolved, and so is whatever can be resolved of the
configuration that any document holds. -/
theorem resolved_of_load (tree : FileTree) :
    (∀ path config, (load tree path).outcome = .ok config → config.Resolved) ∧
      ∀ document decoded source, (ofDocument document).outcome = .ok decoded →
        (resolve tree { decoded with source }).fault = none →
          (resolve tree { decoded with source }).config.Resolved := by
  refine ⟨?_, fun _ _ _ => resolved_of_document⟩
  intro path config loaded
  obtain ⟨document, decoded, loads⟩ := outcome_loadTidy_eq_ok_iff.mp loaded
  exact resolved_of_loads loads

/-- The last port is left for a node in a node list file. -/
def lastPortTree : FileTree :=
  let list := "# list\n s://h:2#Oslo \n"
  let config := "multi_port:\n  base_port: 65535\nnodes_file: n\nnodes:\n- uri: a\n  port: 1\n"
  (FileTree.empty.put "n" (.file (Text.Utf8.encode list.toList))).put
    "c.yaml" (.file (Text.Utf8.encode config.toList))

/-- A document with nothing but a node list file. -/
def listOnly : Document :=
  .map [(.text "nodes_file", .text "n")]

theorem resolved_of_load_lastPortTree :
    (∃ config, (load lastPortTree "c.yaml").outcome = .ok config ∧ config.Resolved ∧
        config.nodes.map (·.port) = [1, 65535]) ∧
      ∃ decoded, (ofDocument listOnly).outcome = .ok decoded ∧
        (resolve lastPortTree { decoded with source := none }).config.Resolved := by
  obtain ⟨ofFile, ofValue⟩ := resolved_of_load lastPortTree
  constructor
  · obtain ⟨config, loaded, ports⟩ : ∃ config,
        (load lastPortTree "c.yaml").outcome = .ok config ∧
          config.nodes.map (·.port) = [1, 65535] :=
      Log.exists_ok_of_view (by decide +kernel)
    exact ⟨config, loaded, ofFile "c.yaml" config loaded, ports⟩
  · have success :
        (resolve lastPortTree { nodesFile := "n", source := none }).fault = none := by
      decide +kernel
    exact ⟨{ nodesFile := "n" }, rfl, ofValue listOnly _ none rfl success⟩

end Config

end RelayPool
