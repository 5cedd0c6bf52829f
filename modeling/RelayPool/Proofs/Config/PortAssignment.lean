import Mathlib.Data.List.Nodup
import RelayPool.Proofs.Config.ResolveFaults

/-!
# Assigned ports

The nodes whose port is open take consecutive ports from the base port on, in
the order of the nodes and whatever ports the other nodes come with.  So two
nodes share a port exactly when two of them come with the same port, or one
comes with a port of the run of assigned ones.
-/

namespace RelayPool.Config

/-- Consecutive ports from `first` on. -/
def consecutivePorts (first : Int) (count : Nat) : List Int :=
  (List.range count).map fun place : Nat => first + (place : Int)

@[simp]
theorem consecutivePorts_zero (first : Int) : consecutivePorts first 0 = [] :=
  rfl

theorem consecutivePorts_one_add (first : Int) (count : Nat) :
    consecutivePorts first (1 + count) = first :: consecutivePorts (first + 1) count := by
  rw [consecutivePorts, Nat.add_comm, List.range_succ_eq_map, List.map_cons, List.map_map,
    consecutivePorts]
  simp only [Int.natCast_zero, Int.add_zero, List.cons.injEq, true_and]
  refine List.map_congr_left fun place _ => ?_
  simp only [Function.comp_apply]
  omega

theorem mem_consecutivePorts_iff {first port : Int} {count : Nat} :
    port ∈ consecutivePorts first count ↔ first ≤ port ∧ port < first + count := by
  simp only [consecutivePorts, List.mem_map, List.mem_range]
  constructor
  · rintro ⟨place, inside, rfl⟩
    omega
  · rintro ⟨fromFirst, beforeEnd⟩
    exact ⟨(port - first).toNat, by omega, by omega⟩

theorem nodup_consecutivePorts (first : Int) (count : Nat) :
    (consecutivePorts first count).Nodup := by
  refine List.Nodup.map ?_ List.nodup_range
  intro place other equal
  exact Int.ofNat.inj (Int.add_left_cancel equal)

/-- The ports that nodes come with. -/
def givenPorts (nodes : List Node) : List Int :=
  (nodes.map fun node => node.port).filter fun port => port ≠ 0

/-- The ports in `final` of the nodes whose port is open in `raw`. -/
def assignedPorts (raw final : List Node) : List Int :=
  ((raw.zip final).filter fun pair => pair.1.port = 0).map fun pair => pair.2.port

theorem assignedPorts_settledNodes (settings : NodeSettings) (index : Nat) (port : Int)
    (nodes : List Node) :
    assignedPorts nodes (settledNodes settings index port nodes) =
      consecutivePorts port (openPorts nodes) := by
  induction nodes generalizing index port with
  | nil => rfl
  | cons node rest ih =>
      have later := ih (index + 1) (port + openPorts [node])
      rw [settledNodes_cons, openPorts_cons node rest]
      by_cases portOpen : node.port = 0
      · rw [openPorts_singleton_of_eq portOpen] at later ⊢
        rw [consecutivePorts_one_add, ← Int.natCast_one, ← later]
        simp [assignedPorts, settledNode, orPort, portOpen]
      · rw [openPorts_singleton_of_ne portOpen] at later ⊢
        rw [Nat.zero_add, ← Int.add_zero port, ← Int.natCast_zero, ← later]
        simp [assignedPorts, portOpen]

/-- Settling gives the nodes the ports that they come with and the assigned
ones. -/
theorem perm_ports_settledNodes (settings : NodeSettings) (index : Nat) (port : Int)
    (nodes : List Node) :
    ((settledNodes settings index port nodes).map fun node => node.port).Perm
      (givenPorts nodes ++ consecutivePorts port (openPorts nodes)) := by
  induction nodes generalizing index port with
  | nil => exact List.Perm.nil
  | cons node rest ih =>
      have later := ih (index + 1) (port + openPorts [node])
      rw [settledNodes_cons, openPorts_cons node rest,
        List.map_cons]
      by_cases portOpen : node.port = 0
      · have given : givenPorts (node :: rest) = givenPorts rest := by
          simp [givenPorts, portOpen]
        have taken : (settledNode settings index port node).port = port := by
          simp [settledNode, orPort, portOpen]
        rw [openPorts_singleton_of_eq portOpen, Int.natCast_one] at later ⊢
        rw [consecutivePorts_one_add, given, taken]
        exact (later.cons port).trans List.perm_middle.symm
      · have given : givenPorts (node :: rest) = node.port :: givenPorts rest := by
          simp [givenPorts, portOpen]
        have kept : (settledNode settings index port node).port = node.port := by
          simp [settledNode, orPort, portOpen]
        rw [openPorts_singleton_of_ne portOpen, Int.natCast_zero, Int.add_zero] at later ⊢
        rw [Nat.zero_add, given, kept]
        exact later.cons node.port

/-- There are ports for all nodes whose port is open. -/
def PortsSuffice (port : Int) (nodes : List Node) : Prop :=
  openPorts nodes = 0 ∨ port + openPorts nodes ≤ maxPort + 1

/-- Nothing blocks the settling exactly when every node has a URI and the ports
suffice. -/
theorem clear_iff {port : Int} {nodes : List Node} :
    (∀ place, ¬ BlockedAt port nodes place) ↔
      (∀ node ∈ nodes, Text.strip node.uri ≠ "") ∧ PortsSuffice port nodes := by
  induction nodes generalizing port with
  | nil => simp [BlockedAt, PortsSuffice]
  | cons node rest ih =>
      rw [clear_cons_iff, ih, List.forall_mem_cons, PortsSuffice, PortsSuffice,
        openPorts_cons node rest]
      by_cases portOpen : node.port = 0
      · rw [openPorts_singleton_of_eq portOpen]
        simp only [Blocked, portOpen, true_and, not_or, Int.not_lt]
        constructor
        · rintro ⟨⟨present, available⟩, restPresent, enough⟩
          exact ⟨⟨present, restPresent⟩, by omega⟩
        · rintro ⟨⟨present, restPresent⟩, enough⟩
          exact ⟨⟨present, by omega⟩, restPresent, by omega⟩
      · rw [openPorts_singleton_of_ne portOpen]
        simp only [Blocked, portOpen, false_and, or_false, Nat.zero_add, Int.natCast_zero,
          Int.add_zero, and_assoc]

/-- How the ports of a resolved configuration come from those of the merged
nodes `raw`. -/
structure PortsAssigned (resolved : Config) (raw : List Node) : Prop where
  assigned_eq :
    assignedPorts raw resolved.nodes =
      consecutivePorts resolved.multiPort.basePort (openPorts raw)
  assigned_nodup : (assignedPorts raw resolved.nodes).Nodup
  assigned_le : ∀ port ∈ assignedPorts raw resolved.nodes, port ≤ maxPort
  nodup_iff :
    (resolved.nodes.map fun node => node.port).Nodup ↔
      (givenPorts raw).Nodup ∧
        ∀ port ∈ givenPorts raw,
          ¬ (resolved.multiPort.basePort ≤ port ∧
            port < resolved.multiPort.basePort + openPorts raw)

/-- The assigned ports are consecutive and in range, and the ports of all nodes
are distinct exactly when those that nodes come with are distinct and none of
them is an assigned one. -/
theorem portsAssigned_of_resolve (tree : FileTree) (config : Config)
    (success : (resolve tree config).fault = none) :
    ∃ raw, mergedNodes tree config = .ok raw ∧
      PortsAssigned (resolve tree config).config raw := by
  obtain ⟨mode, raw, resolvable⟩ := exists_resolvable_of_success success
  rw [(resolve_of_resolvable resolvable).1]
  refine ⟨raw, resolvable.merged, ?_⟩
  have assigned : assignedPorts raw (resolvedConfig mode config raw).nodes =
      consecutivePorts (firstPort config) (openPorts raw) :=
    assignedPorts_settledNodes _ _ _ _
  refine ⟨assigned, ?_, ?_, ?_⟩
  · rw [assigned]
    exact nodup_consecutivePorts _ _
  · intro port member
    rw [assigned, mem_consecutivePorts_iff] at member
    rcases (clear_iff.mp resolvable.clear).2 with none | enough <;> omega
  · have ports := perm_ports_settledNodes
      (nodeSettings (completed mode config raw)) 0 (firstPort config) raw
    have basePort : (resolvedConfig mode config raw).multiPort.basePort = firstPort config :=
      rfl
    rw [basePort, resolvedConfig, ports.nodup_iff, List.nodup_append']
    simp only [nodup_consecutivePorts, true_and, List.Disjoint, mem_consecutivePorts_iff]

/-- A pool in which a node comes with a port that is assigned to the node
behind it. -/
def collidingPool : Config :=
  { nodes := [{ uri := "a" }, { uri := "b", port := 28001 }, { uri := "c" }] }

theorem portsAssigned_of_resolve_collidingPool :
    (resolve .empty collidingPool).fault = none ∧
      assignedPorts collidingPool.nodes (resolve .empty collidingPool).config.nodes =
        [28000, 28001] ∧
      ¬ ((resolve .empty collidingPool).config.nodes.map fun node => node.port).Nodup := by
  have success : (resolve .empty collidingPool).fault = none := by decide +kernel
  obtain ⟨raw, merged, ports⟩ := portsAssigned_of_resolve .empty collidingPool success
  obtain rfl : collidingPool.nodes = raw := Except.ok.inj merged
  refine ⟨success, ports.assigned_eq, fun distinct => ?_⟩
  exact (ports.nodup_iff.mp distinct).2 28001 (by decide) (by decide)

end RelayPool.Config
