import RelayPool.Proofs.Config.ListedNodes
import RelayPool.Proofs.Config.PortAssignment
import RelayPool.Proofs.Config.ResolvedNodes

/-!
# What a fault leaves behind

Resolving works on the configuration itself, so a fault leaves it as far as it
is settled.  Up to the fault a run does what a successful run does: the mode
and the sections have their final values unless the mode is the fault, and so
have the nodes before the one that the fault is about.  The nodes behind that
one, the node list file and the log level are left as they were.
-/

namespace RelayPool.Config

open Log (Reported)

/-- Two configurations with the same mode and the same sections. -/
structure SameSettings (config other : Config) : Prop where
  mode_eq : config.mode = other.mode
  listener_eq : config.listener = other.listener
  multiPort_eq : config.multiPort = other.multiPort
  pool_eq : config.pool = other.pool
  management_eq : config.management = other.management

section Settings

variable {tree : FileTree} {config other left : Config} {mode : String}

theorem SameSettings.refl (config : Config) : SameSettings config config :=
  ⟨rfl, rfl, rfl, rfl, rfl⟩

theorem SameSettings.symm (same : SameSettings config other) : SameSettings other config where
  mode_eq := same.mode_eq.symm
  listener_eq := same.listener_eq.symm
  multiPort_eq := same.multiPort_eq.symm
  pool_eq := same.pool_eq.symm
  management_eq := same.management_eq.symm

theorem SameSettings.settle (same : SameSettings config other) (mode : String) :
    SameSettings (settle mode config) (settle mode other) where
  mode_eq := rfl
  listener_eq := congrArg settleListener same.listener_eq
  multiPort_eq := congrArg settleMultiPort same.multiPort_eq
  pool_eq := congrArg settlePool same.pool_eq
  management_eq := congrArg settleManagement same.management_eq

theorem SameSettings.trans {third : Config} (first : SameSettings config other)
    (second : SameSettings other third) : SameSettings config third where
  mode_eq := first.mode_eq.trans second.mode_eq
  listener_eq := first.listener_eq.trans second.listener_eq
  multiPort_eq := first.multiPort_eq.trans second.multiPort_eq
  pool_eq := first.pool_eq.trans second.pool_eq
  management_eq := first.management_eq.trans second.management_eq

theorem SameSettings.firstPort_eq (same : SameSettings config other) :
    firstPort config = firstPort other := by
  rw [firstPort, firstPort, same.multiPort_eq]

theorem SameSettings.nodeSettings_completed (same : SameSettings config other)
    (mode : String) (nodes others : List Node) :
    nodeSettings (completed mode config nodes) =
      nodeSettings (completed mode other others) := by
  simp only [nodeSettings, completed, Config.settle]
  rw [same.multiPort_eq]
  rfl

theorem sameSettings_resolveNodes (config : Config) :
    SameSettings (resolveNodes config).config config := by
  unfold resolveNodes
  split
  · exact .refl config
  · dsimp only
    split <;> exact ⟨rfl, rfl, rfl, rfl, rfl⟩

theorem sameSettings_includeListed {complete : Config}
    (included : (includeListed tree config).outcome = .ok complete) :
    SameSettings complete config := by
  rw [outcome_includeListed] at included
  split at included
  · obtain rfl := Except.ok.inj included
    exact ⟨rfl, rfl, rfl, rfl, rfl⟩
  · cases included

/-- Once the mode is known, resolving leaves the mode and the sections settled,
wherever it ends. -/
theorem sameSettings_resolve (tree : FileTree) (supported : mode? config.mode = some mode) :
    SameSettings (resolve tree config).config (settle mode config) := by
  simp only [resolve, supported]
  split
  · exact .refl _
  · next complete included =>
      exact (sameSettings_resolveNodes complete).trans (sameSettings_includeListed included)

/-- The mode and the sections of `left` are what every successful run makes of
those of `config`, and such a run exists; all but the nodes is else as it was
in `config`. -/
structure SettingsSettled (config left : Config) : Prop where
  as_on_success :
    ∀ tree other, SameSettings other config → (resolve tree other).fault = none →
      SameSettings (resolve tree other).config left
  exists_success :
    ∃ tree other, SameSettings other config ∧ (resolve tree other).fault = none
  nodesFile_eq : left.nodesFile = config.nodesFile
  logLevel_eq : left.logLevel = config.logLevel
  source_eq : left.source = config.source

/-- A configuration that knows its mode can be resolved with other nodes. -/
theorem exists_success_of_supported (supported : mode? config.mode = some mode) :
    ∃ tree other, SameSettings other config ∧ (resolve tree other).fault = none := by
  -- One node that comes with a port: nothing can block it.
  let node : Node := { uri := "a", port := 1 }
  let other : Config := { config with nodes := [node], nodesFile := "" }
  have clear : ∀ place, ¬ BlockedAt (firstPort other) [node] place := by
    refine clear_iff.mpr ⟨?_, .inl rfl⟩
    intro member isNode
    obtain rfl := List.mem_singleton.mp isNode
    decide
  have resolvable : Resolvable .empty other mode [node] :=
    ⟨supported, rfl, List.cons_ne_nil _ _, clear⟩
  exact ⟨.empty, other, ⟨rfl, rfl, rfl, rfl, rfl⟩, (resolve_of_resolvable resolvable).2⟩

/-- What has the settled mode and sections of a configuration, and is else as it
was, is what every successful run makes of them. -/
theorem settingsSettled_of_sameSettings (supported : mode? config.mode = some mode)
    (settled : SameSettings (settle mode config) left)
    (nodesFile_eq : left.nodesFile = config.nodesFile)
    (logLevel_eq : left.logLevel = config.logLevel)
    (source_eq : left.source = config.source) : SettingsSettled config left where
  as_on_success tree other same _ := by
    have supportedToo : mode? other.mode = some mode := by rw [same.mode_eq, supported]
    have reached := sameSettings_resolve tree supportedToo
    exact (reached.trans (same.settle mode)).trans settled
  exists_success := exists_success_of_supported supported
  nodesFile_eq := nodesFile_eq
  logLevel_eq := logLevel_eq
  source_eq := source_eq

end Settings

section Records

/-- The records about settled nodes among those that resolving makes. -/
def nodeReports (records : List Log.Record) : List Log.Record :=
  records.filter fun record => record.source = .config ∧ record.level = .debug

theorem nodeReports_append (first second : List Log.Record) :
    nodeReports (first ++ second) = nodeReports first ++ nodeReports second :=
  List.filter_append first second

theorem nodeReports_nodeRecords (index : Nat) (nodes : List Node) :
    nodeReports (nodeRecords index nodes) = nodeRecords index nodes := by
  induction nodes generalizing index with
  | nil => rfl
  | cons node rest ih =>
      rw [nodeRecords_cons, nodeReports, List.filter_cons_of_pos (by simp [nodeRecord])]
      exact congrArg _ (ih (index + 1))

theorem records_read (tree : FileTree) (path : String) :
    (NodeList.read tree path).records =
      match NodeList.readText tree path with
      | .ok text =>
          [⟨.nodeList, .debug, "Read " ++ toString (NodeList.nodes text).length ++
            " nodes from " ++ path⟩]
      | .error _ => [] := by
  cases found : NodeList.readText tree path <;>
    simp [NodeList.read, Reported.records_bind, found]

/-- Including the nodes of the node list file makes no record about a settled
node. -/
theorem nodeReports_includeListed (tree : FileTree) (config : Config) :
    nodeReports (includeListed tree config).records = [] := by
  by_cases unset : config.nodesFile = ""
  · simp [includeListed, listedNodes, unset, Reported.records_bind, nodeReports]
  · cases found : NodeList.readText tree config.nodesFile <;>
      simp [includeListed, listedNodes, unset, Reported.records_bind, Reported.outcome_bind,
        outcome_read, records_read, found, Except.map, nodeReports]

end Records

/-- A node that is trimmed and not settled further. -/
def trimmedNode (node : Node) : Node :=
  { node with name := Text.strip node.name, uri := Text.strip node.uri }

/-- A trimmed node that has its name and is not settled further. -/
def namedNode (index : Nat) (node : Node) : Node :=
  { trimmedNode node with
    name :=
      firstText [Text.strip node.name, Uri.name (Text.strip node.uri),
        "node-" ++ toString index] }

/-- What a fault at the place of one of the merged nodes `raw` leaves: the nodes
before it are settled as in a successful run, the fault leaves the node at its
place as `stopped` says, and those behind it are as they were.  There is a
record for each settled node. -/
structure StoppedAt (config : Config) (raw : List Node) (place : Nat)
    (stopped : Node → Node) (left : Resolution) : Prop where
  settings : SettingsSettled config left.config
  length_eq : left.config.nodes.length = raw.length
  before_settled :
    ∀ index < place, ∀ node, raw[index]? = some node →
      ∃ final, left.config.nodes[index]? = some final ∧
        SettledFrom config left.config raw index node final
  before_as_on_success :
    ∀ tree other nodes, SameSettings other config → mergedNodes tree other = .ok nodes →
      nodes.take place = raw.take place → (resolve tree other).fault = none →
        (resolve tree other).config.nodes.take place = left.config.nodes.take place
  at_place :
    ∃ node, raw[place]? = some node ∧ left.config.nodes[place]? = some (stopped node)
  behind_eq : left.config.nodes.drop (place + 1) = raw.drop (place + 1)
  nodeReports_eq :
    nodeReports left.records = nodeRecords 0 (left.config.nodes.take place)

/-- What resolving leaves when it ends with a fault. -/
def LeftBy (tree : FileTree) (config : Config) (left : Resolution) : ResolveFault → Prop
  | .unsupportedMode _ => left.config = config ∧ nodeReports left.records = []
  | .nodeList _ _ =>
      SettingsSettled config left.config ∧ left.config.nodes = config.nodes ∧
        nodeReports left.records = []
  | .noNodes =>
      SettingsSettled config left.config ∧ config.nodes = [] ∧ left.config.nodes = [] ∧
        nodeReports left.records = []
  | .missingUri place =>
      ∃ raw, mergedNodes tree config = .ok raw ∧
        StoppedAt config raw place trimmedNode left
  | .noPortLeft place _ =>
      ∃ raw, mergedNodes tree config = .ok raw ∧
        StoppedAt config raw place (namedNode place) left

section Stopped

variable {tree : FileTree} {config : Config} {mode : String} {raw : List Node}

theorem stoppedNode_of_blank {index : Nat} {node : Node} (blank : Text.strip node.uri = "") :
    stoppedNode index node = trimmedNode node := by
  simp [stoppedNode, trimmedNode, blank]

theorem stoppedNode_of_present {index : Nat} {node : Node}
    (present : Text.strip node.uri ≠ "") : stoppedNode index node = namedNode index node := by
  simp [stoppedNode, namedNode, trimmedNode, present, nodeName_eq_firstText]

/-- A run that succeeds settles the first nodes as any run does that begins with
the same nodes and the same settings. -/
theorem take_nodes_of_success {other : Config} {nodes : List Node} {place : Nat}
    (supported : mode? config.mode = some mode) (same : SameSettings other config)
    (merged : mergedNodes tree other = .ok nodes) (agree : nodes.take place = raw.take place)
    (success : (resolve tree other).fault = none) :
    (resolve tree other).config.nodes.take place =
      settledNodes (nodeSettings (completed mode config raw)) 0 (firstPort config)
        (raw.take place) := by
  obtain ⟨found, others, resolvable⟩ := exists_resolvable_of_success success
  obtain rfl : others = nodes := Except.ok.inj (resolvable.merged.symm.trans merged)
  obtain rfl : found = mode := by
    have both := resolvable.supported
    rw [same.mode_eq, supported] at both
    exact (Option.some.inj both).symm
  rw [(resolve_of_resolvable resolvable).1, resolvedConfig, take_settledNodes, agree,
    same.nodeSettings_completed found others raw, same.firstPort_eq]

theorem resolve_of_firstBlocked {place : Nat} {node : Node}
    (supported : mode? config.mode = some mode) (merged : mergedNodes tree config = .ok raw)
    (first : FirstBlocked (firstPort config) raw place) (found : raw[place]? = some node) :
    resolve tree config =
      let settings := nodeSettings (completed mode config raw)
      let before := settledNodes settings 0 (firstPort config) (raw.take place)
      ⟨{ settle mode config with
          nodes := before ++ stoppedNode place node :: raw.drop (place + 1) },
        (includeListed tree (settle mode config)).records ++ nodeRecords 0 before,
        some (stopFault settings place node)⟩ := by
  rw [resolve_of_merged supported merged, resolveNodes_of_firstBlocked first found]
  rfl

/-- What is left when settling stops at the first node that blocks it. -/
theorem stoppedAt_of_firstBlocked {place : Nat} {node : Node}
    (supported : mode? config.mode = some mode) (merged : mergedNodes tree config = .ok raw)
    (first : FirstBlocked (firstPort config) raw place) (found : raw[place]? = some node)
    {stopped : Node → Node} (stops : stoppedNode place node = stopped node) :
    StoppedAt config raw place stopped (resolve tree config) := by
  have inside : place < raw.length := (List.getElem?_eq_some_iff.mp found).1
  let before := settledNodes (nodeSettings (completed mode config raw)) 0 (firstPort config)
    (raw.take place)
  have count : before.length = place := by
    rw [length_settledNodes, List.length_take, Nat.min_eq_left (Nat.le_of_lt inside)]
  -- The nodes that are left: those before `place`, the one at it, and those behind.
  let left := before ++ stopped node :: raw.drop (place + 1)
  have taken : left.take place = before := List.take_left' count
  rw [resolve_of_firstBlocked supported merged first found, stops]
  constructor
  case settings =>
    exact settingsSettled_of_sameSettings supported ⟨rfl, rfl, rfl, rfl, rfl⟩ rfl rfl rfl
  case length_eq =>
    change left.length = raw.length
    rw [List.length_append, List.length_cons, List.length_drop, count]
    omega
  case before_settled =>
    intro index earlier other stood
    have final := settledFrom_settledNode mode config raw index other
    refine ⟨_, ?_, final.uri_eq, final.name_eq, final.port_eq, final.credentials_eq⟩
    change left[index]? = _
    rw [← List.getElem?_take_of_lt earlier, taken, getElem?_settledNodes_take earlier, stood,
      Nat.zero_add]
    rfl
  case before_as_on_success =>
    intro tree other nodes same mergedToo agree success
    exact (take_nodes_of_success supported same mergedToo agree success).trans taken.symm
  case at_place =>
    refine ⟨node, found, ?_⟩
    change left[place]? = _
    rw [List.getElem?_append_right (Nat.le_of_eq count), count, Nat.sub_self]
    rfl
  case behind_eq =>
    change left.drop (place + 1) = _
    rw [← List.drop_drop, List.drop_left' count]
    rfl
  case nodeReports_eq =>
    change nodeReports (_ ++ nodeRecords 0 before) = nodeRecords 0 (left.take place)
    rw [taken, nodeReports_append, nodeReports_includeListed, nodeReports_nodeRecords]
    rfl

end Stopped

/-- What a run that ends with a fault leaves: everything before the fault is
settled as in a successful run, and everything behind it is as it was. -/
theorem leftBy_of_fault {tree : FileTree} {config : Config} {fault : ResolveFault}
    (failed : (resolve tree config).fault = some fault) :
    LeftBy tree config (resolve tree config) fault := by
  cases (fault_eq_some_iff_firstFault tree config fault).mp failed with
  | unsupportedMode unknown =>
      rw [resolve_of_unsupported ((mode?_eq_none_iff config.mode).mpr unknown)]
      exact ⟨rfl, rfl⟩
  | nodeList known named unreadable =>
      obtain ⟨mode, supported⟩ := exists_mode_of_mem known
      rw [resolve_of_unreadable supported
        (mergedNodes_eq_error_iff.mpr ⟨named, unreadable⟩)]
      refine ⟨?_, rfl, nodeReports_includeListed tree _⟩
      exact settingsSettled_of_sameSettings supported ⟨rfl, rfl, rfl, rfl, rfl⟩ rfl rfl rfl
  | noNodes known empty =>
      obtain ⟨mode, supported⟩ := exists_mode_of_mem known
      obtain ⟨listed, -, nothing⟩ := mergedNodes_eq_ok_iff.mp empty
      rw [resolve_of_merged supported empty, resolveNodes_of_empty]
      refine ⟨?_, (List.append_eq_nil_iff.mp nothing).1, rfl, ?_⟩
      · exact settingsSettled_of_sameSettings supported ⟨rfl, rfl, rfl, rfl, rfl⟩ rfl rfl rfl
      · rw [List.append_nil]
        exact nodeReports_includeListed tree _
  | missingUri known merged first found blank =>
      obtain ⟨mode, supported⟩ := exists_mode_of_mem known
      exact ⟨_, merged,
        stoppedAt_of_firstBlocked supported merged first found (stoppedNode_of_blank blank)⟩
  | noPortLeft known merged first found present =>
      obtain ⟨mode, supported⟩ := exists_mode_of_mem known
      exact ⟨_, merged,
        stoppedAt_of_firstBlocked supported merged first found
          (stoppedNode_of_present present)⟩

/-- A pool with a port for every node that has no port left for its third
node. -/
def exhaustedPool : Config :=
  { mode := "multi_port"
    multiPort := { basePort := 65535, username := "u", password := "p" }
    nodes :=
      [{ uri := " s://h:1#Oslo ", port := 7 }, { uri := "a" }, { uri := " b ", password := "q" },
        { uri := " " }] }

theorem leftBy_of_fault_exhaustedPool :
    (resolve .empty exhaustedPool).fault = some (.noPortLeft 2 65535) ∧
      (resolve .empty exhaustedPool).config.nodes =
        [{ name := "Oslo", uri := "s://h:1#Oslo", port := 7, username := "u", password := "p" },
          { name := "node-1", uri := "a", port := 65535, username := "u", password := "p" },
          { name := "node-2", uri := "b", password := "q" }, { uri := " " }] ∧
      (nodeReports (resolve .empty exhaustedPool).records).length = 2 := by
  have failed : (resolve .empty exhaustedPool).fault = some (.noPortLeft 2 65535) := by
    decide +kernel
  obtain ⟨raw, merged, stopped⟩ := leftBy_of_fault failed
  refine ⟨failed, by decide +kernel, ?_⟩
  rw [stopped.nodeReports_eq]
  decide +kernel

end RelayPool.Config
