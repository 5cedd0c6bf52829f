import RelayPool.Proofs.Config.Decoding
import RelayPool.Proofs.Config.ListedNodes
import RelayPool.Proofs.Config.Loading
import RelayPool.Proofs.Config.Resolved

/-!
# Ports stay in range

Resolving keeps the ports of a configuration in range, wherever it ends: an
automatic port is only given to a node while it is not beyond the greatest
port, and what stands behind a fault keeps the port it had.
-/

namespace RelayPool.Config

/-- The ports of a configuration. -/
def ports (config : Config) : List Int :=
  config.listener.port :: config.multiPort.basePort :: config.nodes.map (·.port)

theorem portsInRange_iff {config : Config} :
    PortsInRange config ↔ ∀ port ∈ config.ports, IsPort port := by
  constructor
  · rintro ⟨listener, multiPort, nodes⟩
    refine List.forall_mem_cons.mpr ⟨listener, List.forall_mem_cons.mpr ⟨multiPort, ?_⟩⟩
    exact List.forall_mem_map.mpr nodes
  · intro all
    obtain ⟨listener, others⟩ := List.forall_mem_cons.mp all
    obtain ⟨multiPort, nodes⟩ := List.forall_mem_cons.mp others
    exact ⟨listener, multiPort, List.forall_mem_map.mp nodes⟩

/-- A port in range is not too long to be shown. -/
theorem intText?_of_isPort {port : Int} (inRange : IsPort port) :
    Number.intText? port = some (Number.intText port) := by
  have short : port.natAbs < 10 ^ 5 := by
    obtain ⟨nonneg, bounded⟩ := inRange
    simp only [maxPort] at bounded
    omega
  have within (limit : Nat) (enough : 5 ≤ limit) : port.natAbs < Nat.pow 10 limit :=
    Nat.lt_of_lt_of_le short (Nat.pow_le_pow_right (by decide) enough)
  rw [Number.intText?, if_pos (within _ (by decide))]

section Nodes

variable {settings : NodeSettings} {index : Nat} {port : Int} {node : Node}

theorem isPort_settledNode (next_nonneg : 0 ≤ port) (inRange : IsPort node.port)
    (free : ¬ Blocked port node) : IsPort (settledNode settings index port node).port := by
  by_cases portOpen : node.port = 0
  · have available : ¬ maxPort < port := fun exhausted => free (.inr ⟨portOpen, exhausted⟩)
    have next : IsPort port := ⟨next_nonneg, by omega⟩
    simpa [settledNode, orPort, portOpen] using next
  · simpa [settledNode, orPort, portOpen] using inRange

/-- A pass over nodes leaves their ports in range, settled or not. -/
theorem isPort_of_mem_settleNodes {nodes : List Node} (next_nonneg : 0 ≤ port)
    (inRange : ∀ node ∈ nodes, IsPort node.port) :
    ∀ node ∈ (settleNodes settings index port nodes).nodes, IsPort node.port := by
  induction nodes generalizing index port with
  | nil => simp [settleNodes]
  | cons node rest ih =>
      obtain ⟨nodeInRange, restInRange⟩ := List.forall_mem_cons.mp inRange
      rw [settleNodes]
      by_cases blocked : Blocked port node
      · rw [settleNode_of_blocked blocked]
        exact List.forall_mem_cons.mpr ⟨nodeInRange, restInRange⟩
      · rw [settleNode_of_not_blocked blocked]
        have settled : IsPort (settledNode settings index port node).port :=
          isPort_settledNode next_nonneg nodeInRange blocked
        exact List.forall_mem_cons.mpr ⟨settled, ih (by omega) restInRange⟩

end Nodes

section Configurations

variable {tree : FileTree} {config : Config}

theorem portsInRange_empty : PortsInRange {} :=
  ⟨isPort_zero, isPort_zero, by simp⟩

theorem PortsInRange.withNodes (inRange : PortsInRange config) {nodes : List Node}
    (nodesInRange : ∀ node ∈ nodes, IsPort node.port) :
    PortsInRange { config with nodes } :=
  ⟨inRange.listener, inRange.multiPort, nodesInRange⟩

theorem PortsInRange.settle (inRange : PortsInRange config) (mode : String) :
    PortsInRange (settle mode config) where
  listener := isPort_of_isBindable (isBindable_orPort inRange.listener (by decide))
  multiPort := isPort_of_isBindable (isBindable_firstPort inRange)
  nodes := inRange.nodes

theorem PortsInRange.includeListed (inRange : PortsInRange config) {complete : Config}
    (included : (includeListed tree config).outcome = .ok complete) :
    PortsInRange complete := by
  rw [outcome_includeListed] at included
  split at included
  · next nodes merged =>
      obtain rfl := Except.ok.inj included
      exact inRange.withNodes (isPort_of_mem_mergedNodes inRange merged)
  · cases included

theorem PortsInRange.resolveNodes (inRange : PortsInRange config) :
    PortsInRange (resolveNodes config).config := by
  have passed : ∀ node ∈ (settleNodes (nodeSettings config) 0 config.multiPort.basePort
      config.nodes).nodes, IsPort node.port :=
    isPort_of_mem_settleNodes inRange.multiPort.1 inRange.nodes
  unfold Config.resolveNodes
  split
  · exact inRange
  · dsimp only
    split
    · exact inRange.withNodes passed
    · exact ⟨inRange.listener, inRange.multiPort, passed⟩

/-- Resolving leaves all ports in range, also where it fails. -/
theorem PortsInRange.resolve (inRange : PortsInRange config) (tree : FileTree) :
    PortsInRange (resolve tree config).config := by
  unfold Config.resolve
  split
  · exact inRange
  · next mode supported =>
      dsimp only
      split
      · exact inRange.settle mode
      · next complete included =>
          exact ((inRange.settle mode).includeListed included).resolveNodes

theorem portsInRange_of_load {path : String} (loaded : (load tree path).outcome = .ok config) :
    PortsInRange config := by
  obtain ⟨document, decoded, loads⟩ := outcome_loadTidy_eq_ok_iff.mp loaded
  have decodedInRange := portsInRange_of_ofDocument loads.accepted
  have inRange : PortsInRange { decoded with source := some (tidyPath path) } :=
    ⟨decodedInRange.listener, decodedInRange.multiPort, decodedInRange.nodes⟩
  rw [← loads.result]
  exact inRange.resolve tree

end Configurations

end RelayPool.Config
