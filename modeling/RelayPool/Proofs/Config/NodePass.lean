import Mathlib.Data.Nat.Find
import RelayPool.Config.Resolve

/-!
# The pass over the nodes

Settling goes through the nodes once, and all that it carries from one node to
the next is the next automatic port: the first one plus the number of nodes so
far whose port was open.  So whether a node can be settled, and what it
becomes, depends on its place only through that number.  A pass settles the
nodes before the first one that blocks it and leaves those behind it alone.
-/

namespace RelayPool.Config

/-- The number of nodes whose port is still open. -/
def openPorts (nodes : List Node) : Nat :=
  nodes.countP fun node => node.port = 0

@[simp]
theorem openPorts_nil : openPorts [] = 0 :=
  rfl

theorem openPorts_cons (node : Node) (rest : List Node) :
    openPorts (node :: rest) = openPorts [node] + openPorts rest := by
  simp only [openPorts, List.countP_cons, List.countP_nil]
  omega

theorem openPorts_singleton_of_eq {node : Node} (portOpen : node.port = 0) :
    openPorts [node] = 1 := by
  simp [openPorts, portOpen]

theorem openPorts_singleton_of_ne {node : Node} (given : node.port ≠ 0) :
    openPorts [node] = 0 := by
  simp [openPorts, given]

/-- A node that cannot be settled where `port` is the next automatic port: it
has no URI, or it needs a port and none is left. -/
def Blocked (port : Int) (node : Node) : Prop :=
  Text.strip node.uri = "" ∨ node.port = 0 ∧ maxPort < port

/-- The credentials of a settled node: without a user name it takes both from
what the nodes share, if they share any. -/
def NodeSettings.credentialsOf (settings : NodeSettings) (node : Node) :
    String × String :=
  if node.username = "" then settings.credentials.getD (node.username, node.password)
  else (node.username, node.password)

theorem withCredentials_eq (settings : NodeSettings) (node : Node) :
    settings.withCredentials node =
      { node with
        username := (settings.credentialsOf node).1
        password := (settings.credentialsOf node).2 } := by
  unfold NodeSettings.withCredentials NodeSettings.credentialsOf
  cases settings.credentials with
  | none => simp
  | some shared => by_cases unnamed : node.username = "" <;> simp [unnamed]

/-- What settling makes of a node where `port` is the next automatic port. -/
def settledNode (settings : NodeSettings) (index : Nat) (port : Int) (node : Node) :
    Node where
  name := nodeName index (Text.strip node.name) (Text.strip node.uri)
  uri := Text.strip node.uri
  port := orPort node.port port
  username := (settings.credentialsOf node).1
  password := (settings.credentialsOf node).2

/-- What settling leaves of a node that blocks it: a missing URI is found
before a name is derived, a missing port after that. -/
def stoppedNode (index : Nat) (node : Node) : Node :=
  { node with
    name :=
      if Text.strip node.uri = "" then Text.strip node.name
      else nodeName index (Text.strip node.name) (Text.strip node.uri)
    uri := Text.strip node.uri }

/-- The fault of a node that blocks the settling. -/
def stopFault (settings : NodeSettings) (index : Nat) (node : Node) : ResolveFault :=
  if Text.strip node.uri = "" then .missingUri index
  else .noPortLeft index settings.basePort

section Step

variable {settings : NodeSettings} {index : Nat} {port : Int} {node : Node}

theorem settleNode_of_blocked (blocked : Blocked port node) :
    settleNode settings index port node =
      .stopped (stoppedNode index node) (stopFault settings index node) := by
  by_cases missing : Text.strip node.uri = ""
  · simp [settleNode, stoppedNode, stopFault, missing]
  · obtain ⟨portOpen, exhausted⟩ := blocked.resolve_left missing
    simp [settleNode, stoppedNode, stopFault, missing, portOpen, exhausted]

theorem settleNode_of_not_blocked (free : ¬ Blocked port node) :
    settleNode settings index port node =
      .settled (settledNode settings index port node) (port + openPorts [node]) := by
  obtain ⟨present, available⟩ := not_or.mp free
  by_cases portOpen : node.port = 0
  · have notExhausted : ¬ maxPort < port := fun exhausted =>
      available ⟨portOpen, exhausted⟩
    simp [settleNode, withCredentials_eq, settledNode, NodeSettings.credentialsOf, orPort,
      openPorts, present, portOpen, notExhausted]
  · simp [settleNode, withCredentials_eq, settledNode, NodeSettings.credentialsOf, orPort,
      openPorts, present, portOpen]

end Step

/-- The node at a place blocks the settling when all nodes before it are
settled. -/
def BlockedAt (port : Int) (nodes : List Node) (place : Nat) : Prop :=
  ∃ node, nodes[place]? = some node ∧
    Blocked (port + openPorts (nodes.take place)) node

/-- The first place where the settling is blocked. -/
def FirstBlocked (port : Int) (nodes : List Node) (place : Nat) : Prop :=
  BlockedAt port nodes place ∧ ∀ earlier < place, ¬ BlockedAt port nodes earlier

theorem blockedAt_cons_zero (port : Int) (node : Node) (rest : List Node) :
    BlockedAt port (node :: rest) 0 ↔ Blocked port node := by
  simp [BlockedAt]

theorem blockedAt_cons_succ (port : Int) (node : Node) (rest : List Node)
    (place : Nat) :
    BlockedAt port (node :: rest) (place + 1) ↔
      BlockedAt (port + openPorts [node]) rest place := by
  simp only [BlockedAt, List.getElem?_cons_succ, List.take_succ_cons]
  rw [openPorts_cons, Int.natCast_add, ← Int.add_assoc]

theorem clear_cons_iff {port : Int} {node : Node} {rest : List Node} :
    (∀ place, ¬ BlockedAt port (node :: rest) place) ↔
      ¬ Blocked port node ∧ ∀ place, ¬ BlockedAt (port + openPorts [node]) rest place := by
  constructor
  · intro clear
    refine ⟨?_, fun place => ?_⟩
    · rw [← blockedAt_cons_zero port node rest]
      exact clear 0
    · rw [← blockedAt_cons_succ]
      exact clear (place + 1)
  · rintro ⟨free, restClear⟩ place
    cases place with
    | zero => rwa [blockedAt_cons_zero]
    | succ place =>
        rw [blockedAt_cons_succ]
        exact restClear place

theorem firstBlocked_cons_succ {port : Int} {node : Node} {rest : List Node}
    {place : Nat} :
    FirstBlocked port (node :: rest) (place + 1) ↔
      ¬ Blocked port node ∧ FirstBlocked (port + openPorts [node]) rest place := by
  rw [FirstBlocked, FirstBlocked, blockedAt_cons_succ]
  constructor
  · rintro ⟨blocked, earlierFree⟩
    refine ⟨?_, blocked, ?_⟩
    · rw [← blockedAt_cons_zero port node rest]
      exact earlierFree 0 (Nat.succ_pos place)
    · intro earlier before
      rw [← blockedAt_cons_succ]
      exact earlierFree (earlier + 1) (Nat.succ_lt_succ before)
  · rintro ⟨free, blocked, earlierFree⟩
    refine ⟨blocked, ?_⟩
    intro earlier before
    cases earlier with
    | zero => rwa [blockedAt_cons_zero]
    | succ earlier =>
        rw [blockedAt_cons_succ]
        exact earlierFree earlier (Nat.lt_of_succ_lt_succ before)

theorem clear_take_of_firstBlocked {port : Int} {nodes : List Node} {place : Nat}
    (first : FirstBlocked port nodes place) (index : Nat) :
    ¬ BlockedAt port (nodes.take place) index := by
  rintro ⟨node, found, blocked⟩
  have inside : index < place := by
    have bounded := (List.getElem?_eq_some_iff.mp found).1
    rw [List.length_take] at bounded
    omega
  rw [List.getElem?_take_of_lt inside] at found
  rw [List.take_take, Nat.min_eq_left (Nat.le_of_lt inside)] at blocked
  exact first.2 index inside ⟨node, found, blocked⟩

/-- A place where the settling is blocked has a first one before it. -/
theorem exists_firstBlocked {port : Int} {nodes : List Node} {place : Nat}
    (blocked : BlockedAt port nodes place) :
    ∃ first, FirstBlocked port nodes first := by
  classical
  have someBlocked : ∃ place, BlockedAt port nodes place := ⟨place, blocked⟩
  exact ⟨Nat.find someBlocked, Nat.find_spec someBlocked,
    fun _ before => Nat.find_min someBlocked before⟩

/-- What settling makes of nodes that do not block it. -/
def settledNodes (settings : NodeSettings) (index : Nat) (port : Int)
    (nodes : List Node) : List Node :=
  nodes.mapIdx fun place node =>
    settledNode settings (index + place) (port + openPorts (nodes.take place)) node

@[simp]
theorem settledNodes_nil (settings : NodeSettings) (index : Nat) (port : Int) :
    settledNodes settings index port [] = [] :=
  rfl

theorem settledNodes_cons (settings : NodeSettings) (index : Nat) (port : Int)
    (node : Node) (rest : List Node) :
    settledNodes settings index port (node :: rest) =
      settledNode settings index port node ::
        settledNodes settings (index + 1) (port + openPorts [node]) rest := by
  have shifted (place : Nat) (later : Node) :
      settledNode settings (index + (place + 1))
          (port + openPorts ((node :: rest).take (place + 1))) later =
        settledNode settings (index + 1 + place)
          (port + openPorts [node] + openPorts (rest.take place)) later := by
    rw [List.take_succ_cons, openPorts_cons, Int.natCast_add, ← Int.add_assoc,
      Nat.add_comm place 1, ← Nat.add_assoc]
  simp only [settledNodes, List.mapIdx_cons, shifted, List.take_zero, openPorts_nil,
    Int.natCast_zero, Int.add_zero, Nat.add_zero]

@[simp]
theorem length_settledNodes (settings : NodeSettings) (index : Nat) (port : Int)
    (nodes : List Node) :
    (settledNodes settings index port nodes).length = nodes.length := by
  rw [settledNodes, List.length_mapIdx]

theorem getElem?_settledNodes (settings : NodeSettings) (index : Nat) (port : Int)
    (nodes : List Node) (place : Nat) :
    (settledNodes settings index port nodes)[place]? =
      nodes[place]?.map
        (settledNode settings (index + place) (port + openPorts (nodes.take place))) := by
  rw [settledNodes, List.getElem?_mapIdx]

theorem settledNodes_append (settings : NodeSettings) (index : Nat) (port : Int)
    (first second : List Node) :
    settledNodes settings index port (first ++ second) =
      settledNodes settings index port first ++
        settledNodes settings (index + first.length) (port + openPorts first) second := by
  induction first generalizing index port with
  | nil => simp
  | cons node rest ih =>
      rw [List.cons_append, settledNodes_cons, settledNodes_cons, ih, List.cons_append,
        openPorts_cons node rest, List.length_cons, Int.natCast_add, Int.add_assoc,
        Nat.add_assoc, Nat.add_comm 1]

theorem take_settledNodes (settings : NodeSettings) (index : Nat) (port : Int)
    (nodes : List Node) (count : Nat) :
    (settledNodes settings index port nodes).take count =
      settledNodes settings index port (nodes.take count) := by
  induction nodes generalizing index port count with
  | nil => simp
  | cons node rest ih =>
      cases count with
      | zero => rfl
      | succ count =>
          rw [settledNodes_cons, List.take_succ_cons, List.take_succ_cons, settledNodes_cons,
            ih]

theorem getElem?_settledNodes_take {settings : NodeSettings} {index : Nat} {port : Int}
    {nodes : List Node} {place count : Nat} (before : place < count) :
    (settledNodes settings index port (nodes.take count))[place]? =
      nodes[place]?.map
        (settledNode settings (index + place) (port + openPorts (nodes.take place))) := by
  rw [← take_settledNodes, List.getElem?_take_of_lt before, getElem?_settledNodes]

theorem exists_eq_settledNode_of_mem {settings : NodeSettings} {index : Nat} {port : Int}
    {nodes : List Node} {final : Node}
    (member : final ∈ settledNodes settings index port nodes) :
    ∃ place next node, node ∈ nodes ∧ settledNode settings place next node = final := by
  obtain ⟨place, found⟩ := List.mem_iff_getElem?.mp member
  rw [getElem?_settledNodes, Option.map_eq_some_iff] at found
  obtain ⟨node, stood, settled⟩ := found
  exact ⟨_, _, node, List.mem_of_getElem? stood, settled⟩

/-- The records of settled nodes. -/
def nodeRecords (index : Nat) (nodes : List Node) : List Log.Record :=
  nodes.mapIdx fun place node => nodeRecord (index + place) node

@[simp]
theorem nodeRecords_nil (index : Nat) : nodeRecords index [] = [] :=
  rfl

theorem nodeRecords_cons (index : Nat) (node : Node) (rest : List Node) :
    nodeRecords index (node :: rest) =
      nodeRecord index node :: nodeRecords (index + 1) rest := by
  simp only [nodeRecords, List.mapIdx_cons, Nat.add_zero, Nat.add_assoc, Nat.add_comm 1]

/-- A pass that nothing blocks settles all nodes. -/
theorem settleNodes_of_clear (settings : NodeSettings) (index : Nat) {port : Int}
    {nodes : List Node} (clear : ∀ place, ¬ BlockedAt port nodes place) :
    settleNodes settings index port nodes =
      ⟨settledNodes settings index port nodes,
        nodeRecords index (settledNodes settings index port nodes), none⟩ := by
  induction nodes generalizing index port with
  | nil => rfl
  | cons node rest ih =>
      obtain ⟨free, restClear⟩ := clear_cons_iff.mp clear
      rw [settleNodes, settleNode_of_not_blocked free, settledNodes_cons,
        nodeRecords_cons]
      simp only [ih (index + 1) restClear]

/-- A pass settles the nodes before the first one that blocks it, and leaves
those behind that one as they are. -/
theorem settleNodes_of_firstBlocked (settings : NodeSettings) (index : Nat)
    {port : Int} {nodes : List Node} {place : Nat} {node : Node}
    (first : FirstBlocked port nodes place) (found : nodes[place]? = some node) :
    settleNodes settings index port nodes =
      ⟨settledNodes settings index port (nodes.take place) ++
          stoppedNode (index + place) node :: nodes.drop (place + 1),
        nodeRecords index (settledNodes settings index port (nodes.take place)),
        some (stopFault settings (index + place) node)⟩ := by
  induction nodes generalizing index port place with
  | nil => simp at found
  | cons head rest ih =>
      cases place with
      | zero =>
          obtain rfl : head = node := by simpa using found
          have blocked : Blocked port head :=
            (blockedAt_cons_zero port head rest).mp first.1
          rw [settleNodes, settleNode_of_blocked blocked]
          simp
      | succ place =>
          obtain ⟨free, restFirst⟩ := firstBlocked_cons_succ.mp first
          rw [List.getElem?_cons_succ] at found
          have later := ih (index + 1) restFirst found
          rw [settleNodes, settleNode_of_not_blocked free, List.take_succ_cons,
            settledNodes_cons, nodeRecords_cons, List.drop_succ_cons]
          simp only [later, List.cons_append, Nat.add_assoc, Nat.add_comm 1]

end RelayPool.Config
